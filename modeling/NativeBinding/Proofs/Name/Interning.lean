import Mathlib.Data.Finset.Card
import NativeBinding.Name

/-!
# Interning is exact

The texts of a table stand at the indices of their names, and its names are found by their texts.
Both sides are written together, once per text, so each is always the inverse of the other. What a
table holds after a run is therefore told by the texts alone: the new ones in order of their first
occurrence, behind those that were there before.
-/

set_option autoImplicit false

namespace NativeBinding.NameTable

/-- A text has a name exactly if it stands at the index of the name. -/
def Exact (table : NameTable) : Prop :=
  ∀ text name, table.name? text = some name ↔ table.texts[name.index]? = some text

section

variable {table : NameTable}

theorem exact_bare : bare.Exact := by
  intro text name
  simp [bare, name?]

theorem texts_nodup (exact : table.Exact) : table.texts.toList.Nodup := by
  rw [List.nodup_iff_getElem?_ne_getElem?]
  intro left right before inside same
  have leftInside : left < table.texts.toList.length := by omega
  have stands : table.texts.toList[left]? = some table.texts.toList[left] :=
    List.getElem?_eq_getElem leftInside
  have leftName := (exact _ ⟨left⟩).2 (by rw [← Array.getElem?_toList]; exact stands)
  have rightName := (exact _ ⟨right⟩).2 (by rw [← Array.getElem?_toList, ← same]; exact stands)
  rw [leftName] at rightName
  have indices : left = right := congrArg Name.index (Option.some.inj rightName)
  omega

theorem mem_texts_iff (exact : table.Exact) (text : String) :
    text ∈ table.texts.toList ↔ (table.name? text).isSome := by
  rw [List.mem_iff_getElem?, Option.isSome_iff_exists]
  constructor
  · rintro ⟨index, stands⟩
    exact ⟨⟨index⟩, (exact text ⟨index⟩).2 (by rw [← Array.getElem?_toList]; exact stands)⟩
  · rintro ⟨name, named⟩
    exact ⟨name.index, by rw [Array.getElem?_toList]; exact (exact text name).1 named⟩

theorem text_of_named (exact : table.Exact) {text : String} {name : Name}
    (named : table.name? text = some name) : table.text name = text := by
  simp only [NameTable.text, (exact text name).1 named, Option.getD_some]

theorem intern_of_named {text : String} {name : Name} (named : table.name? text = some name) :
    table.intern text = (table, name) := by
  simp only [intern, named]

theorem intern_of_new {text : String} (new : table.name? text = none) :
    table.intern text =
      (⟨table.texts.push text, table.names.insert text ⟨table.size⟩⟩, ⟨table.size⟩) := by
  simp only [intern, new]

theorem name?_intern_of_new {text : String} (new : table.name? text = none) (asked : String) :
    (table.intern text).1.name? asked =
      if asked = text then some ⟨table.size⟩ else table.name? asked := by
  rw [intern_of_new new]
  exact table.names.find?_insert text asked ⟨table.size⟩

theorem texts_intern_of_new {text : String} (new : table.name? text = none) :
    (table.intern text).1.texts = table.texts.push text := by
  rw [intern_of_new new]

theorem exact_intern (exact : table.Exact) (text : String) : (table.intern text).1.Exact := by
  cases known : table.name? text with
  | some name =>
      rw [intern_of_named known]
      exact exact
  | none =>
      intro asked name
      rw [name?_intern_of_new known, texts_intern_of_new known, Array.getElem?_push]
      have atEnd : name.index = table.texts.size ↔ (⟨table.size⟩ : Name) = name := by
        cases name
        simp [size, eq_comm]
      by_cases same : asked = text
      · subst same
        by_cases last : name.index = table.texts.size
        · simp [last, atEnd.1 last]
        · -- An earlier place would give the text a name, which it does not have.
          have nowhere : table.texts[name.index]? ≠ some asked := by
            intro stands
            rw [(exact asked name).2 stands] at known
            cases known
          have other : (⟨table.size⟩ : Name) ≠ name := fun named => last (atEnd.2 named)
          simp [last, nowhere, other]
      · by_cases last : name.index = table.texts.size
        · have unnamed : table.name? asked ≠ some name := by
            intro named
            have stands := (exact asked name).1 named
            rw [last, Array.getElem?_size] at stands
            cases stands
          simp [same, last, unnamed, Ne.symm same]
        · rw [if_neg same, if_neg last]
          exact exact asked name

theorem name?_intern_self (table : NameTable) (text : String) :
    (table.intern text).1.name? text = some (table.intern text).2 := by
  cases known : table.name? text with
  | some name =>
      rw [intern_of_named known]
      exact known
  | none =>
      rw [name?_intern_of_new known, if_pos rfl, intern_of_new known]

theorem name?_intern_of_named {asked : String} {name : Name}
    (named : table.name? asked = some name) (text : String) :
    (table.intern text).1.name? asked = some name := by
  cases known : table.name? text with
  | some other =>
      rw [intern_of_named known]
      exact named
  | none =>
      have different : asked ≠ text := by
        rintro rfl
        rw [known] at named
        cases named
      rw [name?_intern_of_new known, if_neg different]
      exact named

end

/-- The new texts in order of their first occurrence. -/
def newcomers (known texts : List String) : List String :=
  (texts.filter fun text => text ∉ known).eraseDups

theorem newcomers_of_known {known : List String} {text : String} (there : text ∈ known)
    (rest : List String) : newcomers known (text :: rest) = newcomers known rest := by
  simp [newcomers, there]

theorem newcomers_of_new {known : List String} {text : String} (new : text ∉ known)
    (rest : List String) :
    newcomers known (text :: rest) = text :: newcomers (known ++ [text]) rest := by
  simp only [newcomers, new, not_false_eq_true, decide_true, List.filter_cons_of_pos,
    List.eraseDups_cons, List.filter_filter, List.mem_append, List.mem_singleton, not_or]
  congr 3
  funext other
  by_cases same : other = text <;> simp [same]

/-- Interns texts one after the other and lists the names they are given; ends at once if the table
is full for one of them. -/
def internEach? (table : NameTable) : List String → Except FullTable (NameTable × List Name)
  | [] => .ok (table, [])
  | text :: rest =>
      match table.intern? text with
      | .error full => .error full
      | .ok (next, name) => (next.internEach? rest).map fun ended => (ended.1, name :: ended.2)

/-- What a run of interning comes to. -/
structure Interned (first : NameTable) (texts : List String) (last : NameTable)
    (names : List Name) : Prop where
  exact : last.Exact
  order : last.texts.toList = first.texts.toList ++ newcomers first.texts.toList texts
  kept : ∀ text name, first.name? text = some name → last.name? text = some name
  given : texts.map last.name? = names.map some

theorem interned_nil {table : NameTable} (exact : table.Exact) : Interned table [] table [] where
  exact := exact
  order := by simp [newcomers]
  kept := fun _ _ named => named
  given := rfl

theorem interned_cons {table last : NameTable} {text : String} {rest : List String}
    {names : List Name} (exact : table.Exact)
    (later : Interned (table.intern text).1 rest last names) :
    Interned table (text :: rest) last ((table.intern text).2 :: names) where
  exact := later.exact
  order := by
    rw [later.order]
    cases known : table.name? text with
    | some name =>
        have there := (mem_texts_iff exact text).2 (by rw [known]; rfl)
        rw [intern_of_named known, newcomers_of_known there]
    | none =>
        have new : text ∉ table.texts.toList := by
          rw [mem_texts_iff exact, known]
          simp
        rw [texts_intern_of_new known, Array.toList_push, newcomers_of_new new, List.append_assoc]
        rfl
  kept := fun asked name named => later.kept asked name (name?_intern_of_named named text)
  given := by
    rw [List.map_cons, List.map_cons, later.given]
    rw [later.kept text _ (name?_intern_self table text)]

/-- How many texts there are in all, each counted once. -/
def distinct (known texts : List String) : Nat := (known ++ texts).toFinset.card

theorem size_lt_distinct {table : NameTable} (exact : table.Exact) {text : String}
    (new : table.name? text = none) (rest : List String) :
    table.size < distinct table.texts.toList (text :: rest) := by
  have longer : (table.texts.push text).toList.Nodup := by
    rw [← texts_intern_of_new new]
    exact texts_nodup (exact_intern exact text)
  have counted : (table.texts.push text).toList.toFinset.card = table.size + 1 := by
    rw [List.toFinset_card_of_nodup longer, Array.length_toList, Array.size_push]
    rfl
  have among : (table.texts.push text).toList.toFinset ⊆
      (table.texts.toList ++ text :: rest).toFinset := by
    intro asked listed
    simp only [List.mem_toFinset, Array.toList_push, List.mem_append, List.mem_cons] at listed ⊢
    tauto
  have bound := Finset.card_le_card among
  unfold distinct
  omega

theorem distinct_intern {table : NameTable} (exact : table.Exact) (text : String)
    (rest : List String) :
    distinct (table.intern text).1.texts.toList rest =
      distinct table.texts.toList (text :: rest) := by
  unfold distinct
  congr 1
  ext asked
  simp only [List.mem_toFinset, List.mem_append, List.mem_cons]
  cases known : table.name? text with
  | some name =>
      have there := (mem_texts_iff exact text).2 (by rw [known]; rfl)
      rw [intern_of_named known]
      by_cases same : asked = text
      · subst same
        simp [there]
      · simp [same]
  | none =>
      rw [texts_intern_of_new known, Array.toList_push, List.mem_append, List.mem_singleton]
      tauto

theorem intern?_of_room {table : NameTable} (exact : table.Exact) {text : String}
    {rest : List String} (room : distinct table.texts.toList (text :: rest) ≤ capacity) :
    table.intern? text = .ok (table.intern text) := by
  apply if_pos
  cases known : table.name? text with
  | some name => exact .inl rfl
  | none =>
      have smaller := size_lt_distinct exact known rest
      exact .inr (by omega)

theorem interned_run {table : NameTable} (exact : table.Exact) {texts : List String}
    (room : distinct table.texts.toList texts ≤ capacity) :
    ∃ last names, table.internEach? texts = .ok (last, names) ∧
      Interned table texts last names := by
  induction texts generalizing table with
  | nil => exact ⟨table, [], rfl, interned_nil exact⟩
  | cons text rest ih =>
      have roomLater : distinct (table.intern text).1.texts.toList rest ≤ capacity := by
        rw [distinct_intern exact]
        exact room
      obtain ⟨last, names, ran, later⟩ := ih (exact_intern exact text) roomLater
      refine ⟨last, (table.intern text).2 :: names, ?_, interned_cons exact later⟩
      simp only [internEach?, intern?_of_room exact room, ran, Except.map]

section

variable {first last : NameTable} {texts : List String} {names : List Name}

theorem given_at (interned : Interned first texts last names) (place : Nat) :
    (texts[place]?).map last.name? = (names[place]?).map some := by
  rw [← List.getElem?_map, ← List.getElem?_map, interned.given]

theorem spelled_names (interned : Interned first texts last names) :
    names.map last.text = texts := by
  apply List.ext_getElem?
  intro place
  have given := given_at interned place
  rw [List.getElem?_map]
  cases name : names[place]? with
  | none =>
      rw [name] at given
      exact (Option.map_eq_none_iff.1 given).symm
  | some name =>
      rw [name] at given
      obtain ⟨text, stands, named⟩ := Option.map_eq_some_iff.1 given
      rw [stands, Option.map_some, text_of_named interned.exact named]

theorem names_follow_texts (interned : Interned first texts last names) (left right : Nat) :
    names[left]? = names[right]? ↔ texts[left]? = texts[right]? := by
  constructor
  · intro same
    rw [← spelled_names interned, List.getElem?_map, List.getElem?_map, same]
  · intro same
    apply Option.map_injective (Option.some_injective Name)
    rw [← given_at interned, ← given_at interned, same]

theorem mem_interned_iff (interned : Interned first texts last names) (text : String) :
    text ∈ last.texts.toList ↔ text ∈ first.texts.toList ++ texts := by
  rw [interned.order, List.mem_append, List.mem_append, newcomers, List.mem_eraseDups,
    List.mem_filter, decide_eq_true_eq]
  tauto

theorem size_interned (interned : Interned first texts last names) :
    last.size = (first.texts.toList ++ texts).toFinset.card := by
  have same : last.texts.toList.toFinset = (first.texts.toList ++ texts).toFinset := by
    ext text
    rw [List.mem_toFinset, List.mem_toFinset]
    exact mem_interned_iff interned text
  rw [← same, List.toFinset_card_of_nodup (texts_nodup interned.exact), Array.length_toList]
  rfl

theorem newcomer_name (interned : Interned first texts last names) {place : Nat} {text : String}
    (stands : (newcomers first.texts.toList texts)[place]? = some text) :
    last.name? text = some ⟨first.size + place⟩ := by
  apply (interned.exact text _).2
  have behind : first.texts.toList.length ≤ first.size + place := Nat.le_add_right _ _
  rw [← Array.getElem?_toList, interned.order, List.getElem?_append_right behind]
  have offset : first.size + place - first.texts.toList.length = place :=
    Nat.add_sub_cancel_left _ _
  rw [offset, stands]

end

theorem intern?_of_listed {table : NameTable} (exact : table.Exact) {text : String}
    (listed : text ∈ table.texts.toList) :
    ∃ name, table.intern? text = .ok (table, name) ∧ table.text name = text := by
  have known := (mem_texts_iff exact text).1 listed
  obtain ⟨name, named⟩ := Option.isSome_iff_exists.1 known
  refine ⟨name, ?_, text_of_named exact named⟩
  rw [← intern_of_named named]
  exact if_pos (.inl known)

theorem exact_internAll {table : NameTable} (exact : table.Exact) (texts : List String) :
    (table.internAll texts).Exact := by
  unfold internAll
  induction texts generalizing table with
  | nil => exact exact
  | cons text rest ih => exact ih (exact_intern exact text)

theorem name?_internAll_of_named {table : NameTable} {asked : String} {name : Name}
    (named : table.name? asked = some name) (texts : List String) :
    (table.internAll texts).name? asked = some name := by
  unfold internAll
  induction texts generalizing table with
  | nil => exact named
  | cons text rest ih => exact ih (name?_intern_of_named named text)

theorem named_internAll (table : NameTable) {texts : List String} {asked : String}
    (listed : asked ∈ texts) : ((table.internAll texts).name? asked).isSome := by
  induction texts generalizing table with
  | nil => cases listed
  | cons text rest ih =>
      rcases List.mem_cons.1 listed with rfl | later
      · have kept := name?_internAll_of_named (table.name?_intern_self asked) rest
        exact Option.isSome_iff_exists.2 ⟨_, kept⟩
      · exact ih (table.intern text).1 later

/-- A text that has been interned is the text of the name that it has. -/
theorem text_named_internAll {table : NameTable} (exact : table.Exact) {texts : List String}
    {asked : String} (listed : asked ∈ texts) :
    (table.internAll texts).text (((table.internAll texts).name? asked).getD .empty) = asked := by
  obtain ⟨own, named⟩ := Option.isSome_iff_exists.1 (named_internAll table listed)
  rw [named]
  exact text_of_named (exact_internAll exact texts) named

theorem exact_fresh : fresh.Exact := exact_internAll exact_bare _

theorem texts_fresh : fresh.texts.toList = "" :: predefined := by decide

/-- However texts are interned into a fresh table, as long as there are indices for all of them: no
call is refused, texts and names stay exact inverses, and a name stands for its text ever after.
Behind the empty text and the predefined ones the new texts follow in order of their first
occurrence, and a text that is there already leaves the table as it is. -/
theorem interning_is_exact (texts : List String)
    (room : (("" :: predefined) ++ texts).toFinset.card ≤ capacity) :
    ∃ table names, fresh.internEach? texts = .ok (table, names) ∧
      table.Exact ∧
      table.texts.toList.Nodup ∧
      (∀ left right : Nat, names[left]? = names[right]? ↔ texts[left]? = texts[right]?) ∧
      names.map table.text = texts ∧
      table.texts.toList = ("" :: predefined) ++ newcomers ("" :: predefined) texts ∧
      (∀ place text, (newcomers ("" :: predefined) texts)[place]? = some text →
        table.name? text = some ⟨14 + place⟩) ∧
      table.size = (("" :: predefined) ++ texts).toFinset.card ∧
      ∀ text ∈ ("" :: predefined) ++ texts, ∃ name,
        table.intern? text = .ok (table, name) ∧ table.text name = text := by
  rw [← texts_fresh] at room ⊢
  obtain ⟨table, names, ran, interned⟩ := interned_run exact_fresh room
  have exact := interned.exact
  refine ⟨table, names, ran, exact, texts_nodup exact, names_follow_texts interned,
    spelled_names interned, interned.order, ?_, size_interned interned, ?_⟩
  · intro place text stands
    exact newcomer_name interned stands
  · intro text listed
    exact intern?_of_listed exact ((mem_interned_iff interned text).2 listed)

/-- New and known texts, one of each twice, the empty one and a predefined one. -/
def mixed : List String := ["Connector", "io", "", "get", "Connector", "int", "io"]

theorem mixed_texts_interned :
    (("" :: predefined) ++ mixed).toFinset.card ≤ capacity ∧
      ∃ table, fresh.internEach? mixed =
          .ok (table, [⟨14⟩, ⟨12⟩, ⟨0⟩, ⟨15⟩, ⟨14⟩, ⟨1⟩, ⟨12⟩]) ∧
        table.name? "get" = some ⟨15⟩ ∧ table.size = 16 ∧ table.text ⟨14⟩ = "Connector" ∧
        ∃ name, table.intern? "get" = .ok (table, name) := by
  have room : (("" :: predefined) ++ mixed).toFinset.card ≤ capacity := by decide
  obtain ⟨table, names, ran, -, -, -, spelled, -, placed, size, again⟩ :=
    interning_is_exact mixed room
  have given : (fresh.internEach? mixed).map Prod.snd =
      .ok [⟨14⟩, ⟨12⟩, ⟨0⟩, ⟨15⟩, ⟨14⟩, ⟨1⟩, ⟨12⟩] := rfl
  rw [ran] at given
  cases given
  refine ⟨room, table, ran, placed 1 "get" (by decide), ?_, ?_, ?_⟩
  · rw [size]
    decide
  · exact (List.cons.inj spelled).1
  · obtain ⟨name, unchanged, -⟩ := again "get" (by decide)
    exact ⟨name, unchanged⟩

end NativeBinding.NameTable
