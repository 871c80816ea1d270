import NativeBinding.Proofs.Name.Interning
import NativeBinding.Proofs.Renaming.Basic
import NativeBinding.Proofs.Text.Cutting

/-!
# Types are told apart by how they are written

A type is written as a keyword, as the name of its package and its own name with a colon between, or
as its element type with brackets behind. A table spells no two names alike, and where the names
have none of the separators in them, the text can be cut at these again. So it tells the type, but
for whether a declared type is a struct or a connector.
-/

set_option autoImplicit false

namespace NativeBinding

/-- The characters between the names of a written signature. -/
def separators : List Char := [':', '.', '(', ')', ',', '[']

namespace NameTable

/-- The table holds the name, and its text has no separator. -/
def Clear (table : NameTable) (name : Name) : Prop :=
  name.index < table.size ∧ ∀ c ∈ (table.text name).toList, c ∉ separators

instance (table : NameTable) (name : Name) : Decidable (table.Clear name) :=
  @instDecidableAnd _ _ _ (List.decidableBAll _ _)

section

variable {table : NameTable} {name other : Name}

theorem named_of_held (exact : table.Exact) (held : name.index < table.size) :
    table.name? (table.text name) = some name := by
  rw [exact, text, Array.getElem?_eq_getElem held]
  rfl

theorem text_inj (exact : table.Exact) (clear : table.Clear name) (otherClear : table.Clear other)
    (same : table.text name = table.text other) : name = other := by
  have named := named_of_held exact clear.1
  rw [same, named_of_held exact otherClear.1] at named
  exact (Option.some.inj named).symm

theorem separator_free (clear : table.Clear name) {c : Char} (separator : c ∈ separators) :
    c ∉ (table.text name).toList := by
  intro member
  exact clear.2 c member separator

end

end NameTable

section

variable {table : NameTable}

namespace TypeName

theorem chars_text (spell : Spelling) (type : TypeName) :
    (type.text spell).toList = (spell type.package).toList ++ ':' :: (spell type.name).toList := by
  unfold text
  rw [String.toList_append, String.toList_append, List.append_assoc]
  rfl

theorem text_inj (exact : table.Exact) {type other : TypeName}
    (clear : ∀ name ∈ type.names, table.Clear name)
    (otherClear : ∀ name ∈ other.names, table.Clear name)
    (same : type.text table.text = other.text table.text) : type = other := by
  obtain ⟨package, name⟩ := type
  obtain ⟨otherPackage, otherName⟩ := other
  simp only [names, List.forall_mem_cons] at clear otherClear
  rw [← String.toList_inj, chars_text, chars_text] at same
  obtain ⟨samePackages, sameNames⟩ := Text.cut_at
    (NameTable.separator_free clear.1 (by decide))
    (NameTable.separator_free otherClear.1 (by decide)) same
  rw [NameTable.text_inj exact clear.1 otherClear.1 (String.toList_inj.1 samePackages),
    NameTable.text_inj exact clear.2.1 otherClear.2.1 (String.toList_inj.1 sameNames)]

/-- Of the separators, a written name of a type has the colon only. -/
theorem separator_free_text {type : TypeName} (clear : ∀ name ∈ type.names, table.Clear name)
    {c : Char} (separator : c ∈ separators) (notColon : c ≠ ':') :
    c ∉ (type.text table.text).toList := by
  obtain ⟨package, name⟩ := type
  simp only [names, List.forall_mem_cons] at clear
  rw [chars_text, List.mem_append, List.mem_cons, not_or, not_or]
  exact ⟨NameTable.separator_free clear.1 separator, notColon,
    NameTable.separator_free clear.2.1 separator⟩

theorem colon_mem_text (spell : Spelling) (type : TypeName) :
    ':' ∈ (type.text spell).toList := by
  rw [chars_text]
  exact List.mem_append_right _ List.mem_cons_self

end TypeName

namespace ValueType

/-- A connector type read as the struct type of the same name, at any depth of arrays. -/
def asStruct : ValueType → ValueType
  | array element => array (asStruct element)
  | connector name => struct name
  | type => type

theorem text_asStruct (spell : Spelling) (type : ValueType) :
    type.asStruct.text spell = type.text spell := by
  induction type with
  | array element ih => exact congrArg (· ++ "[]") ih
  | _ => rfl

/-- The three ways in which a type is written. -/
inductive Form : ValueType → Prop where
  | keyword {type : ValueType} {word : String} (keyword : type.keyword? = some word) : Form type
  | array {element : ValueType} (form : Form element) : Form (array element)
  | declared {type : ValueType} {name : TypeName} (declared : type.typeName? = some name) :
      Form type

theorem form (type : ValueType) : type.Form := by
  induction type with
  | array element ih => exact .array ih
  | struct name | connector name => exact .declared rfl
  | _ => exact .keyword rfl

section

variable {type other : ValueType} {word : String} {name : TypeName}

theorem text_of_keyword (keyword : type.keyword? = some word) (spell : Spelling) :
    type.text spell = word := by
  cases type with
  | array element | struct name | connector name => cases keyword
  | _ =>
      cases keyword
      rfl

theorem keyword_inj (keyword : type.keyword? = some word)
    (otherKeyword : other.keyword? = some word) : type = other := by
  cases type <;> cases keyword <;> cases other <;> first | rfl | simp [keyword?] at otherKeyword

theorem separator_free_keyword (keyword : type.keyword? = some word) {c : Char}
    (separator : c ∈ separators) : c ∉ word.toList := by
  simp only [separators, List.mem_cons, List.not_mem_nil, or_false] at separator
  cases type with
  | array element | struct name | connector name => cases keyword
  | _ =>
      cases keyword
      rcases separator with rfl | rfl | rfl | rfl | rfl | rfl <;> decide

theorem declared_cases (declared : type.typeName? = some name) :
    type = struct name ∨ type = connector name := by
  cases type with
  | struct same =>
      cases declared
      exact .inl rfl
  | connector same =>
      cases declared
      exact .inr rfl
  | _ => cases declared

theorem text_of_declared (declared : type.typeName? = some name) (spell : Spelling) :
    type.text spell = name.text spell := by
  rcases declared_cases declared with rfl | rfl <;> rfl

theorem asStruct_of_declared (declared : type.typeName? = some name) :
    type.asStruct = struct name := by
  rcases declared_cases declared with rfl | rfl <;> rfl

theorem names_of_declared (declared : type.typeName? = some name) : type.names = name.names := by
  rcases declared_cases declared with rfl | rfl <;> rfl

end

theorem chars_text_array (spell : Spelling) (element : ValueType) :
    ((array element).text spell).toList = (element.text spell).toList ++ ['[', ']'] :=
  String.toList_append

theorem bracket_mem_text_array (spell : Spelling) (element : ValueType) :
    '[' ∈ ((array element).text spell).toList := by
  rw [chars_text_array]
  exact List.mem_append_right _ List.mem_cons_self

section

variable {type other : ValueType} {word : String} {name : TypeName}

theorem keyword_not_array (keyword : type.keyword? = some word) (spell : Spelling)
    (element : ValueType) : type.text spell ≠ (array element).text spell := by
  intro same
  have bracket := bracket_mem_text_array spell element
  rw [← same, text_of_keyword keyword] at bracket
  exact separator_free_keyword keyword (by decide) bracket

theorem keyword_not_declared (keyword : type.keyword? = some word)
    (declared : other.typeName? = some name) (spell : Spelling) :
    type.text spell ≠ other.text spell := by
  intro same
  have colon := name.colon_mem_text spell
  rw [← text_of_declared declared, ← same, text_of_keyword keyword] at colon
  exact separator_free_keyword keyword (by decide) colon

theorem declared_not_array (declared : type.typeName? = some name)
    (clear : ∀ name ∈ type.names, table.Clear name) (element : ValueType) :
    type.text table.text ≠ (array element).text table.text := by
  intro same
  have bracket := bracket_mem_text_array table.text element
  rw [← same, text_of_declared declared] at bracket
  rw [names_of_declared declared] at clear
  exact TypeName.separator_free_text clear (by decide) (by decide) bracket

/-- The text tells the type, with structs and connectors taken for one. -/
theorem text_inj (exact : table.Exact) (clear : ∀ name ∈ type.names, table.Clear name)
    (otherClear : ∀ name ∈ other.names, table.Clear name)
    (same : type.text table.text = other.text table.text) : type.asStruct = other.asStruct := by
  induction type.form generalizing other with
  | keyword keyword =>
      cases other.form with
      | keyword otherKeyword =>
          rw [text_of_keyword keyword, text_of_keyword otherKeyword] at same
          subst same
          rw [keyword_inj keyword otherKeyword]
      | array form => exact absurd same (keyword_not_array keyword table.text _)
      | declared declared => exact absurd same (keyword_not_declared keyword declared table.text)
  | array form ih =>
      cases other.form with
      | keyword keyword => exact absurd same.symm (keyword_not_array keyword table.text _)
      | array otherForm =>
          rw [← String.toList_inj, chars_text_array, chars_text_array, List.append_cancel_right_eq,
            String.toList_inj] at same
          exact congrArg array (ih clear otherClear same)
      | declared declared => exact absurd same.symm (declared_not_array declared otherClear _)
  | declared declared =>
      cases other.form with
      | keyword keyword =>
          exact absurd same.symm (keyword_not_declared keyword declared table.text)
      | array form => exact absurd same (declared_not_array declared clear _)
      | declared otherDeclared =>
          rw [names_of_declared declared] at clear
          rw [names_of_declared otherDeclared] at otherClear
          rw [text_of_declared declared, text_of_declared otherDeclared] at same
          rw [asStruct_of_declared declared, asStruct_of_declared otherDeclared,
            TypeName.text_inj exact clear otherClear same]

/-- Between commas and inside brackets a written type can be cut out. -/
theorem separator_free_text (clear : ∀ name ∈ type.names, table.Clear name) {c : Char}
    (separator : c ∈ separators) (notColon : c ≠ ':') (notBracket : c ≠ '[') :
    c ∉ (type.text table.text).toList := by
  induction type.form with
  | keyword keyword =>
      rw [text_of_keyword keyword]
      exact separator_free_keyword keyword separator
  | array form ih =>
      rw [chars_text_array, List.mem_append, not_or]
      refine ⟨ih clear, ?_⟩
      have notClosing : c ≠ ']' := by
        intro closing
        subst closing
        exact absurd separator (by decide)
      simp [notBracket, notClosing]
  | declared declared =>
      rw [names_of_declared declared] at clear
      rw [text_of_declared declared]
      exact TypeName.separator_free_text clear separator notColon

theorem text_ne_empty (spell : Spelling) (type : ValueType) : (type.text spell).toList ≠ [] := by
  cases type.form with
  | @keyword _ word keyword =>
      rw [text_of_keyword keyword]
      intro nothing
      have short : word = "" := String.toList_eq_nil_iff.1 nothing
      subst short
      cases type <;> simp [keyword?] at keyword
  | @array element form =>
      intro nothing
      have bracket := bracket_mem_text_array spell element
      rw [nothing] at bracket
      cases bracket
  | @declared _ name declared =>
      rw [text_of_declared declared]
      intro nothing
      have colon := name.colon_mem_text spell
      rw [nothing] at colon
      cases colon

end

end ValueType

end

end NativeBinding
