import NativeBinding.Proofs.Host.Recording

/-!
# How deep the checks of a call look

An array carries the type that its items are meant to have, and the checks of a call compare this
type with the declared one. They do not look at the items. So what gets through to an implementation
and what comes back from it is as declared at every depth exactly if the arrays were made of items
of their own element types, and no check tells such arrays from others.
-/

set_option autoImplicit false

namespace NativeBinding

namespace Value

/-- What an array holds. -/
def items : Value → List Value
  | array _ items => items
  | _ => []

/-- The value conforms to the type, and under an array type its items fit the element type in
turn. -/
def fits (value : Value) (declared : ValueType) : Bool :=
  match declared with
  | .array element =>
      value.conformsTo (.array element) && value.items.all fun item => item.fits element
  | declared => value.conformsTo declared

mutual

/-- The items of an array conform to the element type that the array carries and are homogeneous in
turn; under `any` nothing is asked of them. A value that is no array is homogeneous. -/
def homogeneous : Value → Bool
  | array element items => itemsHomogeneous element items
  | _ => true

def itemsHomogeneous (element : ValueType) : List Value → Bool
  | [] => true
  | item :: items =>
      item.conformsTo element && (element == .any || homogeneous item) &&
        itemsHomogeneous element items

end

theorem conforms_array_iff (value : Value) (element : ValueType) :
    value.conformsTo (.array element) = true ↔ ∃ items, value = .array element items := by
  simp only [conformsTo, beq_iff_eq]
  cases value <;> simp [type, eq_comm]

/-- Arrays stand under array types and `any` only. -/
theorem homogeneous_of_conforms {value : Value} {declared : ValueType}
    (noArray : declared.element? = none) (conforms : value.conformsTo declared = true) :
    declared = .any ∨ value.homogeneous = true := by
  cases value with
  | array element items =>
      cases declared with
      | any => exact .inl rfl
      | array _ => cases noArray
      | _ => cases conforms
  | _ => exact .inr rfl

theorem homogeneous_array_iff (element : ValueType) (items : List Value) :
    (array element items).homogeneous = true ↔
      ∀ item ∈ items, item.conformsTo element = true ∧
        (element = .any ∨ item.homogeneous = true) := by
  rw [homogeneous]
  induction items with
  | nil => simp [itemsHomogeneous]
  | cons item items ih =>
      rw [List.forall_mem_cons, ← ih]
      simp [itemsHomogeneous]

theorem fits_array_iff (value : Value) (element : ValueType) :
    value.fits (.array element) = true ↔
      ∃ items, value = .array element items ∧ ∀ item ∈ items, item.fits element = true := by
  rw [fits, Bool.and_eq_true, conforms_array_iff, List.all_eq_true]
  constructor
  · rintro ⟨⟨items, rfl⟩, each⟩
    exact ⟨items, rfl, each⟩
  · rintro ⟨items, rfl, each⟩
    exact ⟨⟨items, rfl⟩, each⟩

theorem fits_of_no_array {declared : ValueType} (noArray : declared.element? = none)
    (value : Value) : value.fits declared = value.conformsTo declared := by
  cases declared with
  | array element => cases noArray
  | _ => rfl

/-- A check at every depth against the declared type is a check of the outermost array against it,
and of every array against the type that this array carries itself. -/
theorem fits_iff (value : Value) (declared : ValueType) :
    value.fits declared = true ↔
      value.conformsTo declared = true ∧ (declared = .any ∨ value.homogeneous = true) := by
  -- A conforming array carries the declared element type, so one level down both sides ask the
  -- items for the same type.
  induction declared generalizing value with
  | array element ih =>
      rw [fits_array_iff, conforms_array_iff]
      constructor
      · rintro ⟨items, rfl, each⟩
        refine ⟨⟨items, rfl⟩, .inr ?_⟩
        rw [homogeneous_array_iff]
        intro item listed
        exact (ih item).1 (each item listed)
      · rintro ⟨⟨items, rfl⟩, anything | homogeneous⟩
        · cases anything
        · rw [homogeneous_array_iff] at homogeneous
          refine ⟨items, rfl, ?_⟩
          intro item listed
          exact (ih item).2 (homogeneous item listed)
  | _ =>
      rw [fits_of_no_array rfl, iff_self_and]
      exact homogeneous_of_conforms rfl

theorem items_fit_iff (element : ValueType) (items : List Value) :
    (∀ item ∈ items, item.fits element = true) ↔ (array element items).homogeneous = true := by
  rw [homogeneous_array_iff]
  simp only [fits_iff]

theorem conforms_error_by_type (value : Value) :
    value.conformsTo .error = (value.type == .error || value.type == .nil) := by
  cases value <;> rfl

theorem conforms_by_type {left right : Value} (same : left.type = right.type)
    (declared : ValueType) : left.conformsTo declared = right.conformsTo declared := by
  cases declared with
  | any => rfl
  | error => rw [conforms_error_by_type, conforms_error_by_type, same]
  | _ => simp only [conformsTo, same]

end Value

/-- Under every array type stands an array whose items are all of the element type, at every depth
of arrays. -/
def ArraysFit (types : List ValueType) (values : List Value) : Prop :=
  ∀ (place : Nat) element, types[place]? = some (.array element) →
    ∃ carried items, values[place]? = some (.array carried items) ∧
      ∀ item ∈ items, item.fits element = true

/-- Under every array type stands a homogeneous value. -/
def ArraysHomogeneous (types : List ValueType) (values : List Value) : Prop :=
  ∀ (place : Nat) element value, types[place]? = some (.array element) →
    values[place]? = some value → value.homogeneous = true

theorem arrays_fit_iff {types : List ValueType} {values : List Value}
    (conform : Conform types values) :
    ArraysFit types values ↔ ArraysHomogeneous types values := by
  constructor
  · intro fit place element value declared passed
    obtain ⟨carried, items, there, each⟩ := fit place element declared
    obtain ⟨checked, here, conforms⟩ := conform_at conform declared
    obtain ⟨held, rfl⟩ := (Value.conforms_array_iff checked element).1 conforms
    rw [passed] at there here
    cases there
    cases here
    exact (Value.items_fit_iff element items).1 each
  · intro homogeneous place element declared
    obtain ⟨value, passed, conforms⟩ := conform_at conform declared
    obtain ⟨items, rfl⟩ := (Value.conforms_array_iff value element).1 conforms
    refine ⟨element, items, passed, (Value.items_fit_iff element items).2 ?_⟩
    exact homogeneous place element _ declared passed

theorem first_misfit_by_types (types : List ValueType) {left right : List Value}
    (same : left.map Value.type = right.map Value.type) (start : Nat) :
    firstMisfit? start types left = firstMisfit? start types right := by
  induction types generalizing left right start with
  | nil => rfl
  | cons declared types ih =>
      cases left with
      | nil =>
          cases right with
          | nil => rfl
          | cons value values => cases same
      | cons value values =>
          cases right with
          | nil => cases same
          | cons other others =>
              obtain ⟨sameType, sameRest⟩ := List.cons.inj same
              rw [firstMisfit?, firstMisfit?, Value.conforms_by_type sameType, sameType,
                ih sameRest]

theorem check_by_types {ε : Type} (types : List ValueType) (count : Nat → ε)
    (mistype : Misfit → ε) {left right : List Value}
    (same : left.map Value.type = right.map Value.type) :
    (if left.length ≠ types.length then some (count left.length)
      else (firstMisfit? 0 types left).map mistype) =
      if right.length ≠ types.length then some (count right.length)
      else (firstMisfit? 0 types right).map mistype := by
  have sameLength : left.length = right.length := by
    simpa only [List.length_map] using congrArg List.length same
  rw [sameLength, first_misfit_by_types types same]

namespace NativeTable

variable {σ : Type}

theorem refuse_by_types (declaration : Declaration) {left right : List Value}
    (same : left.map Value.type = right.map Value.type) :
    refuse? declaration left = refuse? declaration right :=
  check_by_types declaration.argTypes _ _ same

theorem reject_by_types (declaration : Declaration) {left right : List Value}
    (same : left.map Value.type = right.map Value.type) :
    reject? declaration left = reject? declaration right :=
  check_by_types declaration.returns _ _ same

/-- What a call comes to, up to the contents of the values that it answers, depends on the
declaration and on the types of the arguments and the results. -/
theorem answer_by_types {left right : NativeTable σ} {signature : Signature}
    {leftBinding rightBinding : Binding σ}
    (leftBound : left.bindings.find? signature = some leftBinding)
    (rightBound : right.bindings.find? signature = some rightBinding)
    (sameDeclaration : leftBinding.declaration = rightBinding.declaration)
    {leftState rightState : σ} {leftArgs rightArgs : List Value}
    (sameArgs : leftArgs.map Value.type = rightArgs.map Value.type)
    (sameResults : (leftBinding.native leftState leftArgs).2.map Value.type =
      (rightBinding.native rightState rightArgs).2.map Value.type) :
    (left.invoke leftState signature leftArgs).2.map (List.map Value.type) =
      (right.invoke rightState signature rightArgs).2.map (List.map Value.type) := by
  unfold invoke
  rw [leftBound, rightBound]
  dsimp only
  rw [sameDeclaration, refuse_by_types _ sameArgs]
  cases refuse? rightBinding.declaration rightArgs with
  | some error => rfl
  | none =>
      dsimp only
      rw [reject_by_types _ sameResults]
      cases reject? rightBinding.declaration (rightBinding.native rightState rightArgs).2 with
      | some error => rfl
      | none => exact congrArg Except.ok sameResults

end NativeTable

/-- An implementation runs only on arguments that conform, and results are answered only if they
conform; of the arrays among them this says that they carry the declared element types. Their items
are of these types at every depth exactly if the caller, or the implementation, has made the arrays
homogeneous. Where the types stay the same, other values in their place get through alike. -/
theorem arrays_cross_by_carried_type {σ : Type} (table : NativeTable σ) (state : σ)
    (log : List Run) (signature : Signature) (args : List Value) :
    let called := table.invoke state signature args
    let recorded := table.recording.invoke (state, log) signature args
    (recorded.1.2 ≠ log → recorded.1.2 = log ++ [⟨signature, args⟩] ∧
      ∃ binding, table.bindings.find? signature = some binding ∧
        Conform binding.declaration.argTypes args ∧
        (ArraysFit binding.declaration.argTypes args ↔
          ArraysHomogeneous binding.declaration.argTypes args)) ∧
    (∀ results, called.2 = .ok results →
      ∃ binding, table.bindings.find? signature = some binding ∧
        results = (binding.native state args).2 ∧ Conform binding.declaration.returns results ∧
        (ArraysFit binding.declaration.returns results ↔
          ArraysHomogeneous binding.declaration.returns results)) ∧
    ∀ (other : NativeTable σ) (otherState : σ) (otherArgs : List Value) binding otherBinding,
      table.bindings.find? signature = some binding →
      other.bindings.find? signature = some otherBinding →
      binding.declaration = otherBinding.declaration →
      args.map Value.type = otherArgs.map Value.type →
      (binding.native state args).2.map Value.type =
        (otherBinding.native otherState otherArgs).2.map Value.type →
      called.2.map (List.map Value.type) =
        (other.invoke otherState signature otherArgs).2.map (List.map Value.type) := by
  intro called recorded
  refine ⟨?_, ?_, ?_⟩
  · intro grown
    obtain ⟨logged, binding, bound, conform⟩ :=
      table.run_of_grown state log signature args grown
    exact ⟨logged, binding, bound, conform, arrays_fit_iff conform⟩
  · intro results answered
    obtain ⟨binding, bound, own, conform⟩ := NativeTable.conform_of_answered answered
    exact ⟨binding, bound, own, conform, arrays_fit_iff conform⟩
  · intro other otherState otherArgs binding otherBinding bound otherBound declared sameArgs
      sameResults
    exact NativeTable.answer_by_types bound otherBound declared sameArgs sameResults

/-- Takes rows of numbers and gives rows of numbers. -/
def echoRows : Declaration :=
  (Declaration.function ⟨14⟩ ⟨15⟩).buildAll
    [.param (.array (.array .int)), .returning (.array (.array .int))]

/-- The state counts the runs, and the answer is what was passed. -/
def echoTable : NativeTable Nat :=
  (NativeTable.empty.register echoRows fun count args => (count + 1, args)).1

def numberRows : Value := .array (.array .int) [.array .int [.int 1, .int 2], .array .int []]

/-- Carries the types of rows of numbers around a text. -/
def textRows : Value := .array (.array .int) [.array .int [.string "x"]]

theorem text_rows_unfit : ¬ArraysFit [.array (.array .int)] [textRows] := by
  intro fit
  obtain ⟨carried, items, there, each⟩ := fit 0 (.array .int) rfl
  cases there
  exact absurd (each _ List.mem_cons_self) (by decide)

/-- Rows of numbers fit on their way in and out. Rows around a text do not, and are answered just as
well. -/
theorem number_rows_fit_and_text_rows_cross :
    let signature := echoRows.signature
    (echoTable.recording.invoke (0, []) signature [numberRows]).1.2 =
        [⟨signature, [numberRows]⟩] ∧
      (echoTable.invoke 0 signature [numberRows]).2 = .ok [numberRows] ∧
      ArraysFit echoRows.argTypes [numberRows] ∧ ArraysFit echoRows.returns [numberRows] ∧
      ¬ArraysHomogeneous echoRows.argTypes [textRows] ∧
      ¬ArraysHomogeneous echoRows.returns [textRows] ∧
      (echoTable.invoke 0 signature [textRows]).2.map (List.map Value.type) =
        .ok [.array (.array .int)] := by
  intro signature
  have homogeneous : ArraysHomogeneous [.array (.array .int)] [numberRows] := by
    intro place element value declared passed
    cases place with
    | zero =>
        cases passed
        decide
    | succ place => cases passed
  obtain ⟨ran, answered, alike⟩ :=
    arrays_cross_by_carried_type echoTable 0 [] signature [numberRows]
  obtain ⟨textRan, textAnswered, -⟩ :=
    arrays_cross_by_carried_type echoTable 0 [] signature [textRows]
  obtain ⟨logged, binding, bound, -, passed⟩ := ran nofun
  obtain ⟨-, _, textBound, -, textPassed⟩ := textRan nofun
  obtain ⟨_, sameBound, -, -, returned⟩ := answered [numberRows] rfl
  obtain ⟨_, sameTextBound, -, -, textReturned⟩ := textAnswered [textRows] rfl
  cases bound
  cases textBound
  cases sameBound
  cases sameTextBound
  have sameTypes := alike echoTable 0 [textRows] _ _ rfl rfl rfl rfl rfl
  exact ⟨logged, rfl, passed.2 homogeneous, returned.2 homogeneous, mt textPassed.2 text_rows_unfit,
    mt textReturned.2 text_rows_unfit, sameTypes.symm⟩

/-- Neither what an implementation is run on nor what is answered need be as declared below the
outermost array. -/
theorem mistyped_items_cross :
    (¬∀ (table : NativeTable Nat) (state : Nat) (log : List Run) (signature : Signature)
        (args : List Value),
      (table.recording.invoke (state, log) signature args).1.2 ≠ log →
        ∃ binding, table.bindings.find? signature = some binding ∧
          ArraysFit binding.declaration.argTypes args) ∧
      ¬∀ (table : NativeTable Nat) (state : Nat) (signature : Signature)
          (args results : List Value),
        (table.invoke state signature args).2 = .ok results →
          ∃ binding, table.bindings.find? signature = some binding ∧
            ArraysFit binding.declaration.returns results := by
  constructor
  · intro fitting
    obtain ⟨binding, bound, fit⟩ := fitting echoTable 0 [] echoRows.signature [textRows] nofun
    cases bound
    exact text_rows_unfit fit
  · intro fitting
    obtain ⟨binding, bound, fit⟩ :=
      fitting echoTable 0 echoRows.signature [textRows] [textRows] rfl
    cases bound
    exact text_rows_unfit fit

end NativeBinding
