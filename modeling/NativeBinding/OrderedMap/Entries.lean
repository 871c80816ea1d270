/-!
# Entries in key order

An entry list pairs keys with values. The lookup laws hold of every list: inserting changes the
answer at one key, erasing empties one key. Only `ext` and the listing order need ascending keys,
and both operations keep them ascending.
-/

set_option autoImplicit false

namespace NativeBinding.Entries

variable {κ β : Type}

section Operations

variable [DecidableEq κ]

/-- The value at the first entry with this key. -/
def find? (key : κ) : List (κ × β) → Option β
  | [] => none
  | (other, value) :: rest => if key = other then some value else find? key rest

/-- Replaces the value of a present key and puts a new key in front of the first greater one. -/
def insert [Ord κ] (key : κ) (value : β) : List (κ × β) → List (κ × β)
  | [] => [(key, value)]
  | (other, previous) :: rest =>
      if key = other then (key, value) :: rest
      else if compare key other = .lt then (key, value) :: (other, previous) :: rest
      else (other, previous) :: insert key value rest

def erase (key : κ) (entries : List (κ × β)) : List (κ × β) :=
  entries.filter fun entry => entry.1 ≠ key

/-- Of two pairs with one key the later wins. -/
def ofList [Ord κ] (pairs : List (κ × β)) : List (κ × β) :=
  pairs.foldl (fun entries pair => insert pair.1 pair.2 entries) []

end Operations

/-- Keys strictly ascend, so no key occurs twice. -/
def Ascending [Ord κ] (entries : List (κ × β)) : Prop :=
  entries.Pairwise fun left right => compare left.1 right.1 = .lt

instance [Ord κ] (entries : List (κ × β)) : Decidable (Ascending entries) :=
  inferInstanceAs (Decidable (List.Pairwise _ _))

section Lookup

variable [DecidableEq κ]

@[simp]
theorem find?_nil (key : κ) : find? key ([] : List (κ × β)) = none := rfl

theorem find?_insert [Ord κ] (key other : κ) (value : β) (entries : List (κ × β)) :
    find? other (insert key value entries) =
      if other = key then some value else find? other entries := by
  induction entries with
  | nil => simp [insert, find?]
  | cons entry rest ih =>
      obtain ⟨head, previous⟩ := entry
      by_cases same : key = head
      · subst same
        by_cases asked : other = key <;> simp [insert, find?, asked]
      · by_cases before : compare key head = .lt
        · by_cases asked : other = key <;> simp [insert, find?, same, before, asked]
        · by_cases asked : other = head
          · subst asked
            simp [insert, find?, same, before, Ne.symm same]
          · simp [insert, find?, same, before, asked, ih]

theorem find?_erase (key other : κ) (entries : List (κ × β)) :
    find? other (erase key entries) = if other = key then none else find? other entries := by
  induction entries with
  | nil => simp [erase, find?]
  | cons entry rest ih =>
      obtain ⟨head, previous⟩ := entry
      by_cases same : head = key
      · subst same
        by_cases asked : other = head <;> simp_all [erase, find?]
      · by_cases asked : other = head
        · subst asked
          simp [erase, find?, same]
        · simp_all [erase, find?]

theorem mem_of_find? {key : κ} {value : β} {entries : List (κ × β)}
    (found : find? key entries = some value) : (key, value) ∈ entries := by
  induction entries with
  | nil => simp at found
  | cons entry rest ih =>
      obtain ⟨head, previous⟩ := entry
      by_cases same : key = head
      · subst same
        simp_all [find?]
      · exact List.mem_cons_of_mem _ (ih (by simpa [find?, same] using found))

theorem mem_insert [Ord κ] {key : κ} {value : β} {entries : List (κ × β)} {entry : κ × β}
    (member : entry ∈ insert key value entries) : entry = (key, value) ∨ entry ∈ entries := by
  induction entries with
  | nil => exact .inl (by simpa [insert] using member)
  | cons head rest ih =>
      obtain ⟨other, previous⟩ := head
      simp only [insert] at member
      split at member
      · grind
      · split at member <;> grind

theorem length_insert_of_absent [Ord κ] {key : κ} {value : β} {entries : List (κ × β)}
    (absent : find? key entries = none) :
    (insert key value entries).length = entries.length + 1 := by
  induction entries with
  | nil => rfl
  | cons entry rest ih =>
      obtain ⟨other, previous⟩ := entry
      simp only [find?] at absent
      split at absent
      · cases absent
      · next different =>
          simp only [insert, different, if_false]
          split
          · rfl
          · rw [List.length_cons, List.length_cons, ih absent]

end Lookup

section Order

variable [Ord κ]

theorem ascending_cons {entry : κ × β} {rest : List (κ × β)} :
    Ascending (entry :: rest) ↔
      (∀ later ∈ rest, compare entry.1 later.1 = .lt) ∧ Ascending rest :=
  List.pairwise_cons

variable [DecidableEq κ]

theorem ascending_erase (key : κ) {entries : List (κ × β)} (ascending : Ascending entries) :
    Ascending (erase key entries) :=
  List.Pairwise.filter _ ascending

variable [Std.TransOrd κ] [Std.LawfulEqOrd κ]

theorem ascending_insert (key : κ) (value : β) {entries : List (κ × β)}
    (ascending : Ascending entries) : Ascending (insert key value entries) := by
  induction entries with
  | nil => simp [insert, Ascending]
  | cons entry rest ih =>
      obtain ⟨other, previous⟩ := entry
      obtain ⟨below, tail⟩ := ascending_cons.1 ascending
      simp only [insert]
      split
      · next same => subst same; exact ascending_cons.2 ⟨below, tail⟩
      · next different =>
          split
          · next before =>
              refine ascending_cons.2 ⟨fun later member => ?_, ascending⟩
              rcases List.mem_cons.1 member with rfl | member
              · exact before
              · exact Std.TransCmp.lt_trans before (below later member)
          · next notBefore =>
              refine ascending_cons.2 ⟨fun later member => ?_, ih tail⟩
              rcases mem_insert member with rfl | member
              · refine Std.OrientedCmp.lt_of_gt ?_
                rcases order : compare key other with _ | _ | _
                · exact absurd order notBefore
                · exact absurd (Std.LawfulEqCmp.eq_of_compare order) different
                · rfl
              · exact below later member

omit [Std.TransOrd κ] in
/-- In ascending entries every key has one value, the one that is found. -/
theorem find?_eq_some_iff {entries : List (κ × β)} (ascending : Ascending entries)
    {key : κ} {value : β} : find? key entries = some value ↔ (key, value) ∈ entries := by
  refine ⟨mem_of_find?, fun member => ?_⟩
  induction entries with
  | nil => simp at member
  | cons entry rest ih =>
      obtain ⟨other, previous⟩ := entry
      obtain ⟨below, tail⟩ := ascending_cons.1 ascending
      rcases List.mem_cons.1 member with same | inRest
      · simp_all [find?]
      · have different : key ≠ other := by
          rintro rfl
          have impossible := below _ inRest
          simp [Std.ReflCmp.compare_self] at impossible
        simpa [find?, different] using ih tail inRest

/-- Ascending entries are determined by what lookups answer. -/
theorem ext {left right : List (κ × β)} (leftAscending : Ascending left)
    (rightAscending : Ascending right) (same : ∀ key, find? key left = find? key right) :
    left = right := by
  induction left generalizing right with
  | nil =>
      cases right with
      | nil => rfl
      | cons entry rest =>
          have answer := same entry.1
          simp [find?] at answer
  | cons entry rest ih =>
      obtain ⟨key, value⟩ := entry
      obtain ⟨below, tail⟩ := ascending_cons.1 leftAscending
      cases right with
      | nil =>
          have answer := same key
          simp [find?] at answer
      | cons other others =>
          obtain ⟨otherKey, otherValue⟩ := other
          obtain ⟨otherBelow, otherTail⟩ := ascending_cons.1 rightAscending
          have leftIn : (key, value) ∈ (otherKey, otherValue) :: others :=
            mem_of_find? ((same key).symm.trans (by simp [find?]))
          have rightIn : (otherKey, otherValue) ∈ (key, value) :: rest :=
            mem_of_find? ((same otherKey).trans (by simp [find?]))
          have heads : (key, value) = (otherKey, otherValue) := by
            rcases List.mem_cons.1 leftIn with equal | inOthers
            · exact equal
            · rcases List.mem_cons.1 rightIn with equal | inRest
              · exact equal.symm
              · have up := otherBelow _ inOthers
                have down := below _ inRest
                exact absurd (Std.TransCmp.lt_trans up down) (by simp [Std.ReflCmp.compare_self])
          obtain ⟨rfl, rfl⟩ := Prod.mk.inj heads
          refine congrArg _ (ih tail otherTail fun asked => ?_)
          by_cases atHead : asked = key
          · subst atHead
            have absent : ∀ {entries : List (κ × β)},
                (∀ later ∈ entries, compare asked later.1 = .lt) → find? asked entries = none := by
              intro entries above
              rcases answer : find? asked entries with _ | found
              · rfl
              · have impossible := above _ (mem_of_find? answer)
                simp [Std.ReflCmp.compare_self] at impossible
            rw [absent below, absent otherBelow]
          · simpa [find?, atHead] using same asked

end Order

end NativeBinding.Entries
