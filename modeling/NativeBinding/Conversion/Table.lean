import NativeBinding.Conversion

/-!
# The table of conversions

Conversions are kept by their pair of types, in order of registration. A pair resolves only when
exactly one conversion is registered for it; the table never picks one of several.
-/

set_option autoImplicit false

namespace NativeBinding

structure TypePair where
  source : ValueType
  target : ValueType
  deriving DecidableEq, Repr, Inhabited

namespace TypePair

def order : TypePair → TypePair → Ordering := compareLex (compareOn source) (compareOn target)

instance : Ord TypePair := ⟨order⟩

instance : Std.TransOrd TypePair :=
  inferInstanceAs (Std.TransCmp (compareLex (compareOn source) (compareOn target)))

instance : Std.LawfulEqOrd TypePair where
  toReflCmp := inferInstanceAs (Std.ReflCmp (compareLex (compareOn source) (compareOn target)))
  eq_of_compare := by
    intro ⟨leftSource, leftTarget⟩ ⟨rightSource, rightTarget⟩ same
    obtain ⟨sources, targets⟩ := Ordering.then_eq_eq.1 same
    have sameSource : leftSource = rightSource := Std.LawfulEqCmp.eq_of_compare sources
    have sameTarget : leftTarget = rightTarget := Std.LawfulEqCmp.eq_of_compare targets
    rw [sameSource, sameTarget]

end TypePair

def Conversion.pair (conversion : Conversion) : TypePair := ⟨conversion.source, conversion.target⟩

/-- Why a pair of types does not resolve. -/
inductive ConversionError where
  | missing
  | ambiguous (candidates : Nat)
  deriving DecidableEq, Repr

structure ConversionTable where
  byPair : OrderedMap TypePair (List Conversion)
  deriving DecidableEq

namespace ConversionTable

def empty : ConversionTable := ⟨.empty⟩

/-- What is registered for a pair, in order of registration. -/
def candidates (table : ConversionTable) (pair : TypePair) : List Conversion :=
  (table.byPair.find? pair).getD []

/-- Answers whether the conversion was new. -/
def register (table : ConversionTable) (conversion : Conversion) : ConversionTable × Bool :=
  let held := table.candidates conversion.pair
  if conversion ∈ held then (table, false)
  else (⟨table.byPair.insert conversion.pair (held ++ [conversion])⟩, true)

/-- Answers whether the conversion was there. A pair without conversions leaves the table. -/
def unregister (table : ConversionTable) (conversion : Conversion) : ConversionTable × Bool :=
  let held := table.candidates conversion.pair
  if conversion ∈ held then
    let rest := held.filter (· ≠ conversion)
    if rest = [] then (⟨table.byPair.erase conversion.pair⟩, true)
    else (⟨table.byPair.insert conversion.pair rest⟩, true)
  else (table, false)

def resolve (table : ConversionTable) (pair : TypePair) : Except ConversionError Conversion :=
  match table.candidates pair with
  | [] => .error .missing
  | [conversion] => .ok conversion
  | many => .error (.ambiguous many.length)

/-- The targets that a type converts to, in the order of types. -/
def targetsFrom (table : ConversionTable) (source : ValueType) : List ValueType :=
  (table.byPair.entries.filter fun entry => entry.1.source = source ∧ entry.2.length = 1).map
    fun entry => entry.1.target

/-- The number of conversions. -/
def size (table : ConversionTable) : Nat := table.byPair.values.flatten.length

def isEmpty (table : ConversionTable) : Bool := table.byPair.isEmpty

theorem candidates_insert (table : ConversionTable) (pair other : TypePair)
    (held : List Conversion) :
    candidates ⟨table.byPair.insert pair held⟩ other =
      if other = pair then held else table.candidates other := by
  unfold candidates
  rw [OrderedMap.find?_insert]
  split <;> rfl

theorem candidates_erase (table : ConversionTable) (pair other : TypePair) :
    candidates ⟨table.byPair.erase pair⟩ other =
      if other = pair then [] else table.candidates other := by
  unfold candidates
  rw [OrderedMap.find?_erase]
  split <;> rfl

theorem candidates_of_found {table : ConversionTable} {pair : TypePair}
    {held : List Conversion} (found : table.byPair.find? pair = some held) :
    table.candidates pair = held := by
  unfold candidates
  rw [found]
  rfl

theorem register_of_held {table : ConversionTable} {conversion : Conversion}
    (held : conversion ∈ table.candidates conversion.pair) :
    table.register conversion = (table, false) := by
  simp only [register, held, if_true]

theorem register_new_iff (table : ConversionTable) (conversion : Conversion) :
    (table.register conversion).2 = true ↔
      conversion ∉ table.candidates conversion.pair := by
  by_cases held : conversion ∈ table.candidates conversion.pair
  · simp [register_of_held held, held]
  · simp [register, held]

theorem unregister_held_iff (table : ConversionTable) (conversion : Conversion) :
    (table.unregister conversion).2 = true ↔
      conversion ∈ table.candidates conversion.pair := by
  by_cases held : conversion ∈ table.candidates conversion.pair
  · simp only [unregister, held, if_true, iff_true]
    split <;> rfl
  · simp [unregister, held]

theorem candidates_register (table : ConversionTable) (conversion : Conversion)
    (pair : TypePair) :
    (table.register conversion).1.candidates pair =
      if pair = conversion.pair ∧ conversion ∉ table.candidates pair
      then table.candidates pair ++ [conversion]
      else table.candidates pair := by
  by_cases held : conversion ∈ table.candidates conversion.pair
  · have same : (table.register conversion).1 = table := by simp [register, held]
    rw [same, if_neg]
    rintro ⟨rfl, notHeld⟩
    exact notHeld held
  · have added : (table.register conversion).1 =
        ⟨table.byPair.insert conversion.pair
          (table.candidates conversion.pair ++ [conversion])⟩ := by
      simp [register, held]
    rw [added, candidates_insert]
    by_cases same : pair = conversion.pair
    · subst same
      rw [if_pos rfl, if_pos ⟨rfl, held⟩]
    · rw [if_neg same, if_neg fun both => same both.1]

/-- A pair that is left without conversions has no entry, which answers the same. -/
theorem candidates_unregister (table : ConversionTable) (conversion : Conversion)
    (pair : TypePair) :
    (table.unregister conversion).1.candidates pair =
      if pair = conversion.pair then (table.candidates pair).filter (· ≠ conversion)
      else table.candidates pair := by
  by_cases held : conversion ∈ table.candidates conversion.pair
  · by_cases nothing : (table.candidates conversion.pair).filter (· ≠ conversion) = []
    · have erased : (table.unregister conversion).1 = ⟨table.byPair.erase conversion.pair⟩ := by
        simp only [unregister, held, nothing, if_true]
      rw [erased, candidates_erase]
      split
      · next same => rw [same, nothing]
      · rfl
    · have kept : (table.unregister conversion).1 =
          ⟨table.byPair.insert conversion.pair
            ((table.candidates conversion.pair).filter (· ≠ conversion))⟩ := by
        simp only [unregister, held, nothing, if_true, if_false]
      rw [kept, candidates_insert]
      split
      · next same => rw [same]
      · rfl
  · have same : (table.unregister conversion).1 = table := by simp [unregister, held]
    rw [same]
    split
    · next here =>
        subst here
        symm
        rw [List.filter_eq_self]
        intro other otherHeld
        have different : other ≠ conversion := by
          rintro rfl
          exact held otherHeld
        exact decide_eq_true different
    · rfl

theorem resolve_eq_ok_iff (table : ConversionTable) (pair : TypePair) (conversion : Conversion) :
    table.resolve pair = .ok conversion ↔ table.candidates pair = [conversion] := by
  unfold resolve
  split
  · next none => simp [none]
  · next one => simp [one]
  · next many notNone notOne =>
      constructor
      · intro resolved
        cases resolved
      · intro one
        exact absurd one (notOne conversion)

theorem resolve_eq_missing_iff (table : ConversionTable) (pair : TypePair) :
    table.resolve pair = .error .missing ↔ table.candidates pair = [] := by
  unfold resolve
  split
  · next none => simp [none]
  · next one => simp [one]
  · next many notNone notOne => simpa using notNone

theorem resolve_eq_ambiguous_iff (table : ConversionTable) (pair : TypePair) (count : Nat) :
    table.resolve pair = .error (.ambiguous count) ↔
      (table.candidates pair).length = count ∧ 2 ≤ count := by
  unfold resolve
  split
  · next none =>
      simp only [none, List.length_nil, Except.error.injEq, reduceCtorEq, false_iff]
      omega
  · next one =>
      simp only [one, List.length_singleton, reduceCtorEq, false_iff]
      omega
  · next many notNone notOne =>
      have several : 2 ≤ (table.candidates pair).length := by
        match found : table.candidates pair with
        | [] => exact absurd found notNone
        | [conversion] => exact absurd found (notOne conversion)
        | _ :: _ :: _ => simp
      simp only [Except.error.injEq, ConversionError.ambiguous.injEq]
      omega

end ConversionTable

end NativeBinding
