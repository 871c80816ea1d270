import NativeBinding.Proofs.ValueType.Written

/-!
# Signatures are told apart by how they are written

The characters that hold a written signature together occur in no name, so the text can be cut at
them again: at the colon behind the package, at the bracket before the parameters, at the point
behind a receiver and at the commas between types. What is left are the texts of names and of types.
So a text tells all of the signature but its kind, the package of the receiver, and whether a
declared type is a struct or a connector.
-/

set_option autoImplicit false

namespace NativeBinding

section

variable {table : NameTable}

namespace Member

/-- What a written member adds to the package and the colon. -/
def chars (spell : Spelling) (member : Member) : List Char :=
  match member.receiver.map TypeName.name with
  | some receiver => (spell receiver).toList ++ '.' :: (spell member.name).toList
  | none => (spell member.name).toList

theorem chars_congr {member other : Member} (sameName : member.name = other.name)
    (sameReceiver : member.receiver.map TypeName.name = other.receiver.map TypeName.name)
    (spell : Spelling) : member.chars spell = other.chars spell := by
  unfold chars
  rw [sameName, sameReceiver]

theorem chars_qualified (spell : Spelling) (package : Name) (member : Member) :
    (member.qualified spell package).toList =
      (spell package).toList ++ ':' :: member.chars spell := by
  unfold qualified chars
  cases member.receiver <;> simp

section

variable {member other : Member}

theorem separator_free_chars (clear : ∀ name ∈ member.names, table.Clear name) {c : Char}
    (separator : c ∈ separators) (notPoint : c ≠ '.') : c ∉ member.chars table.text := by
  obtain ⟨receiver, name⟩ := member
  have ownName := NameTable.separator_free (clear name List.mem_cons_self) separator
  cases receiver with
  | none => exact ownName
  | some receiver =>
      have held := clear receiver.name (by simp [names, TypeName.names])
      simp only [chars, Option.map_some, List.mem_append, List.mem_cons, not_or]
      exact ⟨NameTable.separator_free held separator, notPoint, ownName⟩

theorem chars_inj (exact : table.Exact) (clear : ∀ name ∈ member.names, table.Clear name)
    (otherClear : ∀ name ∈ other.names, table.Clear name)
    (same : member.chars table.text = other.chars table.text) :
    member.name = other.name ∧
      member.receiver.map TypeName.name = other.receiver.map TypeName.name := by
  obtain ⟨receiver, name⟩ := member
  obtain ⟨otherReceiver, otherName⟩ := other
  have ownName := clear name List.mem_cons_self
  have ownOther := otherClear otherName List.mem_cons_self
  have point : '.' ∈ separators := by decide
  cases receiver with
  | none =>
      cases otherReceiver with
      | none => exact ⟨NameTable.text_inj exact ownName ownOther (String.toList_inj.1 same), rfl⟩
      | some otherReceiver =>
          have free := NameTable.separator_free ownName point
          have joined : '.' ∈ Member.chars table.text ⟨some otherReceiver, otherName⟩ :=
            List.mem_append_right _ List.mem_cons_self
          rw [← same] at joined
          exact absurd joined free
  | some receiver =>
      have joined : '.' ∈ Member.chars table.text ⟨some receiver, name⟩ :=
        List.mem_append_right _ List.mem_cons_self
      cases otherReceiver with
      | none =>
          rw [same] at joined
          exact absurd joined (NameTable.separator_free ownOther point)
      | some otherReceiver =>
          have held := clear receiver.name (by simp [names, TypeName.names])
          have otherHeld := otherClear otherReceiver.name (by simp [names, TypeName.names])
          obtain ⟨sameReceivers, sameNames⟩ := Text.cut_at
            (NameTable.separator_free held point) (NameTable.separator_free otherHeld point) same
          refine ⟨NameTable.text_inj exact ownName ownOther (String.toList_inj.1 sameNames), ?_⟩
          exact congrArg some
            (NameTable.text_inj exact held otherHeld (String.toList_inj.1 sameReceivers))

end

end Member

namespace Signature

/-- The texts behind the first one of a list. -/
def laterChars (texts : List (List Char)) : List Char :=
  texts.flatMap fun text => ',' :: ' ' :: text

theorem endsSort_laterChars (texts : List (List Char)) :
    Text.EndsSort (· ≠ ',') (laterChars texts) := by
  cases texts with
  | nil => exact Text.endsSort_nil _
  | cons text rest => exact Text.endsSort_cons (not_not_intro rfl) _

theorem intercalate_cons (text : List Char) (rest : List (List Char)) :
    [',', ' '].intercalate (text :: rest) = text ++ laterChars rest := by
  induction rest generalizing text with
  | nil => simp [laterChars]
  | cons next rest ih =>
      rw [List.intercalate_cons_cons, ih]
      simp [laterChars]

theorem laterChars_inj {texts others : List (List Char)} (free : ∀ text ∈ texts, ',' ∉ text)
    (othersFree : ∀ text ∈ others, ',' ∉ text) (same : laterChars texts = laterChars others) :
    texts = others := by
  induction texts generalizing others with
  | nil =>
      cases others with
      | nil => rfl
      | cons other others => cases same
  | cons text texts ih =>
      cases others with
      | nil => cases same
      | cons other others =>
          rw [List.forall_mem_cons] at free othersFree
          have behind : text ++ laterChars texts = other ++ laterChars others :=
            (List.cons.inj (List.cons.inj same).2).2
          obtain ⟨rfl, sameLater⟩ := Text.cut_unique (List.forall_mem_ne'.2 free.1)
            (List.forall_mem_ne'.2 othersFree.1) (endsSort_laterChars texts)
            (endsSort_laterChars others) behind
          rw [ih free.2 othersFree.2 sameLater]

theorem intercalate_inj {texts others : List (List Char)}
    (texted : ∀ text ∈ texts, text ≠ [] ∧ ',' ∉ text)
    (othersTexted : ∀ text ∈ others, text ≠ [] ∧ ',' ∉ text)
    (same : [',', ' '].intercalate texts = [',', ' '].intercalate others) : texts = others := by
  cases texts with
  | nil =>
      cases others with
      | nil => rfl
      | cons other others =>
          rw [intercalate_cons, List.intercalate_nil, eq_comm, List.append_eq_nil_iff] at same
          exact absurd same.1 (othersTexted other List.mem_cons_self).1
  | cons text texts =>
      cases others with
      | nil =>
          rw [intercalate_cons, List.intercalate_nil, List.append_eq_nil_iff] at same
          exact absurd same.1 (texted text List.mem_cons_self).1
      | cons other others =>
          apply laterChars_inj (fun text listed => (texted text listed).2)
            (fun text listed => (othersTexted text listed).2)
          rw [intercalate_cons, intercalate_cons] at same
          exact congrArg (fun chars => ',' :: ' ' :: chars) same

theorem chars_typeListText (spell : Spelling) (types : List ValueType) :
    (typeListText spell types).toList =
      [',', ' '].intercalate (types.map fun type => (type.text spell).toList) := by
  unfold typeListText
  rw [String.toList_intercalate, List.map_map]
  rfl

theorem chars_text (spell : Spelling) (signature : Signature) :
    (signature.text spell).toList =
      (spell signature.package).toList ++ ':' :: (signature.member.chars spell ++
        '(' :: ((typeListText spell signature.params).toList ++ [')'])) := by
  unfold text
  simp only [String.toList_append, Member.chars_qualified, List.append_assoc, List.cons_append]
  rfl

theorem typeListText_asStruct (spell : Spelling) (types : List ValueType) :
    typeListText spell (types.map ValueType.asStruct) = typeListText spell types := by
  unfold typeListText
  rw [List.map_map]
  congr 1
  apply List.map_congr_left
  intro type listed
  exact type.text_asStruct spell

section

variable {types others : List ValueType}

theorem types_texted (clear : ∀ name ∈ types.flatMap ValueType.names, table.Clear name) :
    ∀ text ∈ types.map fun type => (type.text table.text).toList, text ≠ [] ∧ ',' ∉ text := by
  intro text listed
  obtain ⟨type, member, rfl⟩ := List.mem_map.1 listed
  have own : ∀ name ∈ type.names, table.Clear name := fun name mentioned =>
    clear name (List.mem_flatMap.2 ⟨type, member, mentioned⟩)
  exact ⟨type.text_ne_empty table.text,
    ValueType.separator_free_text own (by decide) (by decide) (by decide)⟩

theorem types_inj (exact : table.Exact)
    (clear : ∀ name ∈ types.flatMap ValueType.names, table.Clear name)
    (otherClear : ∀ name ∈ others.flatMap ValueType.names, table.Clear name)
    (same : types.map (fun type => (type.text table.text).toList) =
      others.map fun type => (type.text table.text).toList) :
    types.map ValueType.asStruct = others.map ValueType.asStruct := by
  induction types generalizing others with
  | nil =>
      cases others with
      | nil => rfl
      | cons other others => cases same
  | cons type types ih =>
      cases others with
      | nil => cases same
      | cons other others =>
          rw [List.flatMap_cons, List.forall_mem_append] at clear otherClear
          obtain ⟨first, rest⟩ := List.cons.inj same
          rw [List.map_cons, List.map_cons, ih clear.2 otherClear.2 rest,
            ValueType.text_inj exact clear.1 otherClear.1 (String.toList_inj.1 first)]

theorem params_inj (exact : table.Exact)
    (clear : ∀ name ∈ types.flatMap ValueType.names, table.Clear name)
    (otherClear : ∀ name ∈ others.flatMap ValueType.names, table.Clear name)
    (same : typeListText table.text types = typeListText table.text others) :
    types.map ValueType.asStruct = others.map ValueType.asStruct := by
  rw [← String.toList_inj, chars_typeListText, chars_typeListText] at same
  exact types_inj exact clear otherClear
    (intercalate_inj (types_texted clear) (types_texted otherClear) same)

end

end Signature

end

namespace Signature

/-- Whatever has been interned: signatures whose names the table holds, spelled without separators,
are written alike exactly if package, member name and the name of the receiver's type are the same
and the parameters are too, with every connector type read as the struct type of the same name. -/
theorem written_alike_iff (texts : List String) (left right : Signature)
    (leftClear : ∀ name ∈ left.names, (NameTable.fresh.internAll texts).Clear name)
    (rightClear : ∀ name ∈ right.names, (NameTable.fresh.internAll texts).Clear name) :
    let table := NameTable.fresh.internAll texts
    left.text table.text = right.text table.text ↔
      left.package = right.package ∧ left.member.name = right.member.name ∧
        left.member.receiver.map TypeName.name = right.member.receiver.map TypeName.name ∧
        left.params.map ValueType.asStruct = right.params.map ValueType.asStruct := by
  intro table
  have exact : table.Exact := NameTable.exact_internAll NameTable.exact_fresh texts
  rw [names, List.forall_mem_append, List.forall_mem_cons] at leftClear rightClear
  obtain ⟨⟨leftPackage, leftMember⟩, leftParams⟩ := leftClear
  obtain ⟨⟨rightPackage, rightMember⟩, rightParams⟩ := rightClear
  rw [← String.toList_inj, chars_text, chars_text]
  constructor
  · intro same
    obtain ⟨samePackages, same⟩ := Text.cut_at
      (NameTable.separator_free leftPackage (by decide))
      (NameTable.separator_free rightPackage (by decide)) same
    obtain ⟨sameMembers, same⟩ := Text.cut_at
      (Member.separator_free_chars leftMember (by decide) (by decide))
      (Member.separator_free_chars rightMember (by decide) (by decide)) same
    rw [List.append_cancel_right_eq, String.toList_inj] at same
    obtain ⟨sameName, sameReceiver⟩ := Member.chars_inj exact leftMember rightMember sameMembers
    exact ⟨NameTable.text_inj exact leftPackage rightPackage (String.toList_inj.1 samePackages),
      sameName, sameReceiver, params_inj exact leftParams rightParams same⟩
  · intro same
    obtain ⟨samePackage, sameName, sameReceiver, sameParams⟩ := same
    rw [samePackage, Member.chars_congr sameName sameReceiver, ← typeListText_asStruct, sameParams,
      typeListText_asStruct]

def accessorTexts : List String := ["get", "a ]"]

/-- A function under a type of `io` whose name has a blank and a closing bracket; the struct in its
parameters is named like a keyword and belongs to the package without a name. -/
def accessor : Signature :=
  ⟨.function, ⟨13⟩, ⟨some ⟨⟨12⟩, ⟨15⟩⟩, ⟨14⟩⟩, [.array (.struct ⟨⟨0⟩, ⟨1⟩⟩), .int]⟩

/-- The same with another kind, another package of the receiver, and a connector for the struct. -/
def connectorAccessor : Signature :=
  ⟨.action, ⟨13⟩, ⟨some ⟨⟨13⟩, ⟨15⟩⟩, ⟨14⟩⟩, [.array (.connector ⟨⟨0⟩, ⟨1⟩⟩), .int]⟩

/-- The keyword and the struct have changed places. -/
def swappedAccessor : Signature :=
  ⟨.function, ⟨13⟩, ⟨some ⟨⟨12⟩, ⟨15⟩⟩, ⟨14⟩⟩, [.array .int, .struct ⟨⟨0⟩, ⟨1⟩⟩]⟩

theorem accessor_written_alike :
    let table := NameTable.fresh.internAll accessorTexts
    (∀ name ∈ accessor.names ++ connectorAccessor.names ++ swappedAccessor.names,
        table.Clear name) ∧
      accessor.text table.text = "http:a ].get(:int[], int)" ∧
      accessor.text table.text = connectorAccessor.text table.text ∧
      accessor.text table.text ≠ swappedAccessor.text table.text := by
  intro table
  have clear : ∀ name ∈ accessor.names ++ connectorAccessor.names ++ swappedAccessor.names,
      table.Clear name := by decide
  obtain ⟨both, swapped⟩ := List.forall_mem_append.1 clear
  obtain ⟨own, connector⟩ := List.forall_mem_append.1 both
  refine ⟨clear, by decide, ?_, ?_⟩
  · exact (written_alike_iff accessorTexts _ _ own connector).2 (by decide)
  · intro alike
    obtain ⟨-, -, -, params⟩ := (written_alike_iff accessorTexts _ _ own swapped).1 alike
    exact absurd params (by decide)

end Signature

end NativeBinding
