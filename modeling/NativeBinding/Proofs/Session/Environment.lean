import NativeBinding.Proofs.LastWrite
import NativeBinding.Session.Settings
import Mathlib.Data.List.Forall2

/-!
# What variables make of settings

Different variables can spell one property, and each variable overwrites what an earlier one has
set. So the builtins are switched by the last of the variables for that, and a property is what it
was set to last by hand, or else what the last variable that spells it says.
-/

set_option autoImplicit false

namespace NativeBinding

/-- The value of the last pair whose name is chosen. -/
def lastValue? (chosen : String → Prop) [DecidablePred chosen] (pairs : List (String × String)) :
    Option String :=
  (pairs.filter fun pair => chosen pair.1).getLast?.map Prod.snd

theorem last_value_of_run {State Part : Type} {after : State → String × String → State}
    (part : State → Part) (chosen : String → Prop) [DecidablePred chosen] (read : String → Part)
    (one : ∀ state pair,
      part (after state pair) = if chosen pair.1 then read pair.2 else part state)
    (pairs : List (String × String)) (state : State) :
    part (pairs.foldl after state) = ((lastValue? chosen pairs).map read).getD (part state) := by
  let write? (pair : String × String) : Option Part :=
    if decide (chosen pair.1) = true then some (read pair.2) else none
  have step (state : State) (pair : String × String) :
      part (after state pair) = (write? pair).getD (part state) := by
    rw [one]
    by_cases picked : chosen pair.1 <;> simp [write?, picked]
  have writes : pairs.filterMap write? =
      (pairs.filter fun pair => chosen pair.1).map (read ∘ Prod.snd) := by
    rw [← List.filterMap_eq_map, List.filterMap_filter]
    rfl
  rw [last_write_of_run part step, writes, List.getLast?_map, lastValue?, Option.map_map]

/-- How a character of a variable stands in the key of its property. -/
inductive ReadsAs : Char → Char → Prop where
  | point : ReadsAs '_' '.'
  | lowered (capital : Char) (upper : 'A' ≤ capital ∧ capital ≤ 'Z') :
      ReadsAs capital (Char.ofNat (capital.toNat + 32))
  | kept (other : Char) (notPoint : other ≠ '_') (notUpper : ¬('A' ≤ other ∧ other ≤ 'Z')) :
      ReadsAs other other

/-- A variable of this name sets the property under the key. -/
def Spells (name key : String) : Prop :=
  ∃ entry, name.toList = Settings.propertyPrefix.toList ++ entry ∧ entry ≠ [] ∧
    List.Forall₂ ReadsAs entry key.toList

theorem lowered_capital {capital : Char} (upper : 'A' ≤ capital ∧ capital ≤ 'Z') :
    capital.toLower = Char.ofNat (capital.toNat + 32) := by
  have low : 65 ≤ capital.toNat := upper.1
  have high : capital.toNat ≤ 90 := upper.2
  have every : ∀ code ≤ 90, 65 ≤ code →
      (Char.ofNat code).toLower = Char.ofNat (code + 32) := by decide
  have this := every capital.toNat high low
  rwa [Char.ofNat_toNat] at this

theorem reads_as_iff (entry key : Char) :
    ReadsAs entry key ↔ (if entry = '_' then '.' else entry.toLower) = key := by
  constructor
  · intro reads
    cases reads with
    | point => rfl
    | lowered capital upper =>
        rw [if_neg, lowered_capital upper]
        rintro rfl
        exact absurd upper (by decide)
    | kept other notPoint notUpper =>
        rw [if_neg notPoint]
        exact dif_neg notUpper
  · rintro rfl
    by_cases point : entry = '_'
    · rw [if_pos point, point]
      exact .point
    rw [if_neg point]
    by_cases upper : 'A' ≤ entry ∧ entry ≤ 'Z'
    · rw [lowered_capital upper]
      exact .lowered entry upper
    · have kept : entry.toLower = entry := dif_neg upper
      rw [kept]
      exact .kept entry point upper

namespace Settings

theorem propertyName_eq_iff (entry : List Char) (key : String) :
    propertyName entry = key ↔ List.Forall₂ ReadsAs entry key.toList := by
  simp only [funext₂ fun entry key => propext (reads_as_iff entry key)]
  rw [← List.forall₂_map_left_iff, List.forall₂_eq_eq_eq, propertyName, ← String.toList_inj,
    String.toList_ofList]

/-- The key that a variable spells, if it is one for a property. -/
def property? (name : String) : Option String :=
  match propertyPrefix.toList.isPrefixOf? name.toList with
  | some (first :: rest) => some (propertyName (first :: rest))
  | _ => none

theorem property_eq_some_iff (name key : String) : property? name = some key ↔ Spells name key := by
  unfold property? Spells
  constructor
  · intro found
    split at found
    · next first rest cut =>
        refine ⟨first :: rest, (List.isPrefixOf?_eq_some_iff_append_eq.1 cut).symm, nofun, ?_⟩
        exact (propertyName_eq_iff _ key).1 (Option.some.inj found)
    · cases found
  · rintro ⟨entry, spelled, nonempty, reads⟩
    rw [List.isPrefixOf?_eq_some_iff_append_eq.2 spelled.symm]
    cases entry with
    | nil => exact absurd rfl nonempty
    | cons first rest => exact congrArg some ((propertyName_eq_iff _ key).2 reads)

instance (name key : String) : Decidable (Spells name key) :=
  decidable_of_iff _ (property_eq_some_iff name key)

/-- No variable is for both. -/
theorem switch_spells_nothing (key : String) : ¬Spells noBuiltinsVariable key := by
  intro spells
  have spelled := (property_eq_some_iff _ _).2 spells
  have nothing : property? noBuiltinsVariable = none := by decide
  rw [nothing] at spelled
  cases spelled

def withProperties (settings : Settings) (calls : List (String × String)) : Settings :=
  calls.foldl (fun settings call => settings.withProperty call.1 call.2) settings

/-- From variables first, then set by hand. -/
def configured (environment calls : List (String × String)) : Settings :=
  (ofVariables environment).withProperties calls

section

variable (settings : Settings) (key : String)

theorem switch_withVariable (entry : String × String) :
    (settings.withVariable entry).loadBuiltins =
      if entry.1 = noBuiltinsVariable then decide (entry.2 ∈ keepsBuiltins)
      else settings.loadBuiltins := by
  unfold withVariable
  split
  · rfl
  · split <;> rfl

theorem find_withProperty (name value : String) :
    (settings.withProperty name value).properties.find? key =
      if name = key then some value else settings.properties.find? key := by
  rw [withProperty, OrderedMap.find?_insert]
  simp only [eq_comm]

theorem withVariable_of_other {entry : String × String} (other : entry.1 ≠ noBuiltinsVariable) :
    settings.withVariable entry =
      ((property? entry.1).map fun key => settings.withProperty key entry.2).getD settings := by
  rw [withVariable, if_neg other, property?]
  rcases propertyPrefix.toList.isPrefixOf? entry.1.toList with _ | _ | ⟨first, rest⟩ <;> rfl

theorem find_withVariable (entry : String × String) :
    (settings.withVariable entry).properties.find? key =
      if Spells entry.1 key then some entry.2 else settings.properties.find? key := by
  by_cases switch : entry.1 = noBuiltinsVariable
  · rw [withVariable, if_pos switch, switch, if_neg (switch_spells_nothing key)]
  rw [withVariable_of_other settings switch]
  simp only [← property_eq_some_iff]
  cases property? entry.1 with
  | none => rfl
  | some spelled =>
      rw [Option.map_some, Option.getD_some, find_withProperty]
      simp only [Option.some.injEq]

theorem switch_ofVariables (environment : List (String × String)) :
    (ofVariables environment).loadBuiltins =
      ((lastValue? (· = noBuiltinsVariable) environment).map
        fun value => decide (value ∈ keepsBuiltins)).getD true :=
  last_value_of_run loadBuiltins (· = noBuiltinsVariable)
    (fun value => decide (value ∈ keepsBuiltins)) switch_withVariable environment {}

theorem find_ofVariables (environment : List (String × String)) :
    (ofVariables environment).properties.find? key = lastValue? (Spells · key) environment := by
  refine (last_value_of_run (fun settings => settings.properties.find? key) (Spells · key) some
    (find_withVariable · key) environment {}).trans ?_
  cases lastValue? (Spells · key) environment <;> rfl

theorem switch_withProperties (calls : List (String × String)) :
    (settings.withProperties calls).loadBuiltins = settings.loadBuiltins := by
  unfold withProperties
  induction calls generalizing settings with
  | nil => rfl
  | cons call rest ih => exact ih (settings.withProperty call.1 call.2)

theorem find_withProperties (calls : List (String × String)) :
    (settings.withProperties calls).properties.find? key =
      (lastValue? (· = key) calls).or (settings.properties.find? key) := by
  refine (last_value_of_run (fun settings => settings.properties.find? key) (· = key) some
    (fun settings call => settings.find_withProperty key call.1 call.2) calls settings).trans ?_
  cases lastValue? (· = key) calls <;> rfl

/-- A call by hand goes before every variable. -/
theorem find_configured (environment calls : List (String × String)) :
    (configured environment calls).properties.find? key =
      (lastValue? (· = key) calls).or (lastValue? (Spells · key) environment) := by
  rw [configured, find_withProperties, find_ofVariables]

/-- The builtins stay out exactly if the last variable for that says so. -/
theorem switched_off_iff (environment : List (String × String)) :
    (ofVariables environment).loadBuiltins = false ↔
      ∃ value, lastValue? (· = noBuiltinsVariable) environment = some value ∧
        value ≠ "" ∧ value ≠ "0" ∧ value ≠ "false" := by
  rw [switch_ofVariables]
  cases lastValue? (· = noBuiltinsVariable) environment with
  | none => simp
  | some value => simp [keepsBuiltins]

end

end Settings

end NativeBinding
