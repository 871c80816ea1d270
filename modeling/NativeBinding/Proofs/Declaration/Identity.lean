import NativeBinding.Proofs.Declaration.Building
import NativeBinding.Proofs.Host.Recording

/-!
# What a signature fixes

A signature names the type that a callable is called through, but not whether the values of this
type are structs or connectors. For a function they can only be structs. An action is called through
connectors until it is attached and through structs from then on, and its signature tells neither.
So two declarations with one signature receive the same arguments exactly if both were attached or
neither was, and a registration that replaces one by the other turns every accepted call away.
-/

set_option autoImplicit false

namespace NativeBinding

/-- How a declaration starts. -/
inductive Opening where
  | function (package name : Name)
  | action (package : Name) (connector : TypeName) (name : Name)
  deriving DecidableEq, Repr

def Opening.declaration : Opening → Declaration
  | function package name => .function package name
  | action package connector name => .action package connector name

/-- A start and the build steps taken from there, in any number and order. -/
structure Blueprint where
  opening : Opening
  steps : List BuildStep
  deriving DecidableEq, Repr

def Blueprint.declaration (blueprint : Blueprint) : Declaration :=
  blueprint.opening.declaration.buildAll blueprint.steps

/-- Some step attaches the callable to a struct type. -/
def Blueprint.Attached (blueprint : Blueprint) : Prop :=
  ∃ struct, BuildStep.attachedTo struct ∈ blueprint.steps

namespace Declaration

/-- The callable is called through structs of the type that its member names. -/
def ThroughStruct (declaration : Declaration) : Prop :=
  ∃ type, declaration.member.receiver = some type ∧ declaration.receiver = some (.struct type)

theorem through_struct_build {declaration : Declaration} (through : declaration.ThroughStruct)
    (steps : List BuildStep) : (declaration.buildAll steps).ThroughStruct := by
  unfold buildAll
  induction steps generalizing declaration with
  | nil => exact through
  | cons step rest ih =>
      apply ih
      cases step with
      | attachedTo struct => exact ⟨struct, rfl, rfl⟩
      | _ => exact through

/-- Steps that do not attach the callable leave alone what it is called through. -/
theorem unattached_build (declaration : Declaration) {steps : List BuildStep}
    (unattached : ∀ struct, BuildStep.attachedTo struct ∉ steps) :
    (declaration.buildAll steps).member = declaration.member ∧
      (declaration.buildAll steps).receiver = declaration.receiver := by
  unfold buildAll
  induction steps generalizing declaration with
  | nil => exact ⟨rfl, rfl⟩
  | cons step rest ih =>
      have later : ∀ struct, BuildStep.attachedTo struct ∉ rest := by
        intro struct listed
        exact unattached struct (List.mem_cons_of_mem step listed)
      obtain ⟨sameMember, sameReceiver⟩ := ih (declaration.build step) later
      rw [List.foldl_cons, sameMember, sameReceiver]
      cases step with
      | attachedTo struct => exact absurd List.mem_cons_self (unattached struct)
      | _ => exact ⟨rfl, rfl⟩

theorem argTypes_eq_iff {left right : Declaration} (same : left.params = right.params) :
    left.argTypes = right.argTypes ↔ left.receiver = right.receiver := by
  unfold argTypes
  rw [same, List.append_left_inj]
  cases left.receiver <;> cases right.receiver <;> simp

theorem argCount_eq {left right : Declaration} (leftBuilt : left.Built) (rightBuilt : right.Built)
    (same : left.signature = right.signature) : left.argCount = right.argCount := by
  have leftNamed := receiver_iff_member leftBuilt
  have rightNamed := receiver_iff_member rightBuilt
  unfold member at leftNamed rightNamed
  rw [same, ← rightNamed] at leftNamed
  unfold argCount argTypes params
  rw [same, List.length_append, List.length_append]
  cases leftFound : left.receiver <;> cases rightFound : right.receiver <;>
    simp [leftFound, rightFound] at leftNamed ⊢

end Declaration

namespace Blueprint

theorem through_struct {blueprint : Blueprint} (attached : blueprint.Attached) :
    blueprint.declaration.ThroughStruct := by
  obtain ⟨struct, listed⟩ := attached
  obtain ⟨before, after, split⟩ := List.append_of_mem listed
  unfold declaration
  have built : blueprint.opening.declaration.buildAll blueprint.steps =
      ((blueprint.opening.declaration.buildAll before).attachedTo struct).buildAll after := by
    rw [split]
    exact List.foldl_append
  rw [built]
  exact Declaration.through_struct_build ⟨struct, rfl, rfl⟩ after

theorem through_connector {blueprint : Blueprint} (unattached : ¬blueprint.Attached) :
    blueprint.declaration.receiver =
      blueprint.declaration.member.receiver.map ValueType.connector := by
  obtain ⟨sameMember, sameReceiver⟩ :=
    blueprint.opening.declaration.unattached_build (not_exists.1 unattached)
  unfold declaration
  rw [sameMember, sameReceiver]
  cases blueprint.opening <;> rfl

theorem built (blueprint : Blueprint) : blueprint.declaration.Built := by
  apply Declaration.built_all
  cases blueprint.opening with
  | function package name => exact .function package name
  | action package connector name => exact .action package connector name

theorem unattached_function {blueprint : Blueprint} (unattached : ¬blueprint.Attached)
    (function : blueprint.declaration.kind = .function) :
    blueprint.declaration.member.receiver = none := by
  rcases Declaration.receiver_cases blueprint.built with
    ⟨-, named, -⟩ | ⟨type, named, asStruct | ⟨action, -⟩⟩
  · exact named
  · rw [through_connector unattached, named] at asStruct
    cases asStruct
  · rw [function] at action
    cases action

section

variable {left right : Blueprint}

theorem struct_and_connector (same : left.declaration.member = right.declaration.member)
    (attached : left.Attached) (unattached : ¬right.Attached) :
    ∃ type, left.declaration.receiver = some (.struct type) ∧
      right.declaration.receiver = some (.connector type) := by
  obtain ⟨type, named, receiver⟩ := through_struct attached
  refine ⟨type, receiver, ?_⟩
  rw [through_connector unattached, ← same, named]
  rfl

theorem attached_of_same_receiver (same : left.declaration.member = right.declaration.member)
    (receivers : left.declaration.receiver = right.declaration.receiver)
    (attached : left.Attached) : right.Attached := by
  by_contra unattached
  obtain ⟨type, asStruct, asConnector⟩ := struct_and_connector same attached unattached
  rw [receivers, asConnector] at asStruct
  cases asStruct

theorem attached_of_same_member
    (same : left.declaration.member = right.declaration.member)
    (function : right.declaration.kind = .function) (attached : left.Attached) :
    right.Attached := by
  by_contra unattached
  obtain ⟨type, named, -⟩ := through_struct attached
  rw [same, unattached_function unattached function] at named
  cases named

theorem receiver_eq_iff (same : left.declaration.member = right.declaration.member) :
    left.declaration.receiver = right.declaration.receiver ↔ (left.Attached ↔ right.Attached) := by
  constructor
  · intro receivers
    exact ⟨attached_of_same_receiver same receivers,
      attached_of_same_receiver same.symm receivers.symm⟩
  · intro alike
    by_cases attached : left.Attached
    · obtain ⟨leftType, leftNamed, leftReceiver⟩ := through_struct attached
      obtain ⟨rightType, rightNamed, rightReceiver⟩ := through_struct (alike.1 attached)
      rw [same, rightNamed] at leftNamed
      cases leftNamed
      rw [leftReceiver, rightReceiver]
    · rw [through_connector attached, through_connector (mt alike.2 attached), same]

/-- No value is both a struct and a connector. -/
theorem no_args_for_struct_and_connector
    (same : left.declaration.member = right.declaration.member) (attached : left.Attached)
    (unattached : ¬right.Attached) {args : List Value}
    (structs : Conform left.declaration.argTypes args) :
    ¬Conform right.declaration.argTypes args := by
  obtain ⟨type, asStruct, asConnector⟩ := struct_and_connector same attached unattached
  unfold Declaration.argTypes at structs ⊢
  rw [asStruct] at structs
  rw [asConnector]
  intro connectors
  cases structs with
  | cons isStruct _ =>
      cases connectors with
      | cons isConnector _ =>
          simp only [Value.conformsTo, beq_iff_eq] at isStruct isConnector
          rw [isStruct] at isConnector
          cases isConnector

theorem no_args_for_both (same : left.declaration.member = right.declaration.member)
    (different : ¬(left.Attached ↔ right.Attached)) {args : List Value}
    (conform : Conform left.declaration.argTypes args) :
    ¬Conform right.declaration.argTypes args := by
  intro conformRight
  by_cases attached : left.Attached
  · have unattached : ¬right.Attached := fun also => different (iff_of_true attached also)
    exact no_args_for_struct_and_connector same attached unattached conform conformRight
  · have rightAttached : right.Attached := by
      by_contra unattached
      exact different (iff_of_false attached unattached)
    exact no_args_for_struct_and_connector same.symm rightAttached attached conformRight conform

end

end Blueprint

namespace NativeTable

variable {σ : Type} {left right : Declaration}

theorem refuse_congr (same : left.argTypes = right.argTypes) (args : List Value) :
    refuse? left args = refuse? right args := by
  unfold refuse? Declaration.argCount
  rw [same]

/-- A declaration that takes the same arguments can stand in for another one. -/
theorem runs_of_same_args (signatures : left.signature = right.signature)
    (types : left.argTypes = right.argTypes) (table : NativeTable σ) (old new : Native σ)
    (signature : Signature) (args : List Value) :
    ((table.register left old).1.register right new).1.runs signature args =
      (table.register left old).1.runs signature args := by
  rw [runs_register, runs_register, signatures, refuse_congr types]
  split <;> rfl

theorem runs_of_other_args (signatures : left.signature = right.signature) {args : List Value}
    (apart : Conform left.argTypes args → ¬Conform right.argTypes args) (table : NativeTable σ)
    (old new : Native σ) :
    (table.register left old).1.runs left.signature args = [] ∨
      ((table.register left old).1.register right new).1.runs left.signature args = [] := by
  rw [runs_register, runs_register, if_pos rfl, if_pos signatures]
  simp only [Option.isNone_iff_eq_none, refuse_none, ite_eq_right_iff, List.cons_ne_nil, imp_false]
  exact imp_iff_not_or.1 apart

end NativeTable

/-- Two declarations of one signature differ in what their implementations receive exactly if one of
them was attached and the other was not, which only happens to actions; then no arguments of the
replaced registration get through to the new implementation. -/
theorem signature_fixes_arguments_until_attached {σ : Type} (left right : Blueprint)
    (same : left.declaration.signature = right.declaration.signature) (table : NativeTable σ)
    (old new : Native σ) :
    (left.declaration.kind = .function → (left.Attached ↔ right.Attached)) ∧
    (left.declaration.receiver = right.declaration.receiver ↔ (left.Attached ↔ right.Attached)) ∧
    (left.declaration.argTypes = right.declaration.argTypes ↔ (left.Attached ↔ right.Attached)) ∧
    left.declaration.argCount = right.declaration.argCount ∧
    let before := (table.register left.declaration old).1
    let after := (before.register right.declaration new).1
    ((left.Attached ↔ right.Attached) →
      ∀ signature args, after.runs signature args = before.runs signature args) ∧
    (¬(left.Attached ↔ right.Attached) →
      ∀ args, before.runs left.declaration.signature args = [] ∨
        after.runs left.declaration.signature args = []) := by
  have members : left.declaration.member = right.declaration.member :=
    congrArg Signature.member same
  have kinds : left.declaration.kind = right.declaration.kind := congrArg Signature.kind same
  have params : left.declaration.params = right.declaration.params := congrArg Signature.params same
  have receivers := Blueprint.receiver_eq_iff members
  have argTypes := (Declaration.argTypes_eq_iff params).trans receivers
  refine ⟨?_, receivers, argTypes, Declaration.argCount_eq left.built right.built same, ?_, ?_⟩
  · intro function
    exact ⟨Blueprint.attached_of_same_member members (kinds ▸ function),
      Blueprint.attached_of_same_member members.symm function⟩
  · intro alike
    exact NativeTable.runs_of_same_args same (argTypes.2 alike) table old new
  · intro different args
    apply NativeTable.runs_of_other_args same
    exact Blueprint.no_args_for_both members different

/-- An action as it starts. -/
def connectorGet : Blueprint := ⟨.action ⟨14⟩ ⟨⟨14⟩, ⟨16⟩⟩ ⟨15⟩, [.param .string]⟩

/-- The same action, attached to the struct type of the connector's name. -/
def structGet : Blueprint :=
  ⟨.action ⟨14⟩ ⟨⟨14⟩, ⟨16⟩⟩ ⟨15⟩, [.attachedTo ⟨⟨14⟩, ⟨16⟩⟩, .param .string]⟩

/-- Replacing the one by the other turns a call away that was answered before. -/
theorem attached_get_refuses_connector :
    let count : Native Nat := fun calls _ => (calls + 1, [])
    let before := (NativeTable.empty.register connectorGet.declaration count).1
    let after := (before.register structGet.declaration count).1
    let signature := connectorGet.declaration.signature
    let args := [Value.connector ⟨0, ⟨⟨14⟩, ⟨16⟩⟩⟩, .string "a"]
    signature = structGet.declaration.signature ∧
      connectorGet.declaration.receiver ≠ structGet.declaration.receiver ∧
      before.invoke 0 signature args = (1, .ok []) ∧
      after.runs signature args = [] ∧
      after.invoke 0 signature args =
        (0, .error (.argumentType 0 (.struct ⟨⟨14⟩, ⟨16⟩⟩) (.connector ⟨⟨14⟩, ⟨16⟩⟩))) := by
  intro count before after signature args
  have same : signature = structGet.declaration.signature := rfl
  have attached : structGet.Attached := ⟨_, List.mem_cons_self⟩
  have unattached : ¬connectorGet.Attached := by
    intro found
    obtain ⟨struct, listed⟩ := found
    cases List.mem_singleton.1 listed
  have different : ¬(connectorGet.Attached ↔ structGet.Attached) := fun alike =>
    unattached (alike.2 attached)
  obtain ⟨-, receivers, -, -, -, turnedAway⟩ :=
    signature_fixes_arguments_until_attached connectorGet structGet same .empty count count
  have ran : before.runs signature args ≠ [] := List.cons_ne_nil _ _
  exact ⟨same, mt receivers.1 different, rfl, (turnedAway different args).resolve_left ran, rfl⟩

/-- A signature does not fix what an implementation receives. -/
theorem signature_leaves_receiver_open :
    ¬∀ left right : Blueprint, left.declaration.signature = right.declaration.signature →
      left.declaration.receiver = right.declaration.receiver ∧
        left.declaration.argTypes = right.declaration.argTypes ∧
        ∀ (table : NativeTable Nat) (old new : Native Nat) (args : List Value),
          let before := (table.register left.declaration old).1
          let after := (before.register right.declaration new).1
          after.runs left.declaration.signature args =
            before.runs left.declaration.signature args := by
  intro fixed
  obtain ⟨receivers, -, -⟩ := fixed connectorGet structGet rfl
  exact absurd receivers (by decide)

end NativeBinding
