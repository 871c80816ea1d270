import NativeBinding.Callable.Declaration

/-!
# Declarations that build steps make

A declaration says twice what it is called through: its member names the receiver type, and beside
the signature stands the receiver as a type of values. Build steps set both together, however often
they set them, so what they make never names a receiver in one place only.
-/

set_option autoImplicit false

namespace NativeBinding.Declaration

/-- Started as a function or an action and completed by build steps, in any number and order. -/
inductive Built : Declaration → Prop where
  | function (package name : Name) : Built (.function package name)
  | action (package : Name) (connector : TypeName) (name : Name) :
      Built (.action package connector name)
  | step {declaration : Declaration} (earlier : Built declaration) (step : BuildStep) :
      Built (declaration.build step)

theorem built_all {declaration : Declaration} (built : declaration.Built)
    (steps : List BuildStep) : (declaration.buildAll steps).Built := by
  unfold buildAll
  induction steps generalizing declaration with
  | nil => exact built
  | cons step rest ih => exact ih (built.step step)

/-- A member with a receiver has the value type for that receiver, and it is a connector only for an
action that was never attached. A member without one is a plain function. -/
theorem receiver_cases {declaration : Declaration} (built : declaration.Built) :
    (declaration.kind = .function ∧ declaration.member.receiver = none ∧
      declaration.receiver = none) ∨
      ∃ type, declaration.member.receiver = some type ∧
        (declaration.receiver = some (.struct type) ∨
          (declaration.kind = .action ∧ declaration.receiver = some (.connector type))) := by
  induction built with
  | function package name => exact .inl ⟨rfl, rfl, rfl⟩
  | action package connector name => exact .inr ⟨connector, rfl, .inr ⟨rfl, rfl⟩⟩
  | step earlier step ih =>
      cases step with
      | attachedTo struct => exact .inr ⟨struct, rfl, .inl rfl⟩
      | _ => exact ih

theorem receiver_iff_member {declaration : Declaration} (built : declaration.Built) :
    declaration.receiver.isSome ↔ declaration.member.receiver.isSome := by
  rcases receiver_cases built with ⟨-, named, typed⟩ | ⟨type, named, typed | ⟨-, typed⟩⟩ <;>
    simp [named, typed]

theorem action_has_receiver {declaration : Declaration} (built : declaration.Built)
    (action : declaration.kind = .action) : declaration.receiver.isSome := by
  apply (receiver_iff_member built).2
  rcases receiver_cases built with ⟨function, -, -⟩ | ⟨type, named, -⟩
  · rw [function] at action
    cases action
  · rw [named]
    rfl

end NativeBinding.Declaration
