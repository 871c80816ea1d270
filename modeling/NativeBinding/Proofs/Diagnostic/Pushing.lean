import NativeBinding.Proofs.Diagnostic.Collecting

/-!
# A sequence of pushes in closed form

What an empty queue keeps of a sequence of diagnostics can be read off the sequence. The limit
decides place by place: an error is let through by the number of errors that stand before it,
whatever became of them. Of what is let through, duplicates leave their first copy. Whoever pushes
an error is told so in either case.
-/

set_option autoImplicit false

namespace NativeBinding

namespace Limits

/-- The errors that stand before a place of a sequence. -/
def errorsBefore (diagnostics : List Diagnostic) (place : Nat) : Nat :=
  (diagnostics.take place).countP Diagnostic.isError

/-- The warnings and the first errors of a sequence. -/
def selection (limits : Limits) (diagnostics : List Diagnostic) : List Diagnostic :=
  (diagnostics.zipIdx.filter fun entry =>
    entry.1.isError → limits.Room (errorsBefore diagnostics entry.2)).map Prod.fst

variable (limits : Limits)

theorem selection_snoc (diagnostics : List Diagnostic) (diagnostic : Diagnostic) :
    limits.selection (diagnostics ++ [diagnostic]) =
      limits.selection diagnostics ++
        limits.admitted (diagnostics.countP Diagnostic.isError) [diagnostic] := by
  have earlier : ∀ entry ∈ diagnostics.zipIdx,
      errorsBefore (diagnostics ++ [diagnostic]) entry.2 = errorsBefore diagnostics entry.2 := by
    intro entry listed
    have inside : entry.2 ≤ diagnostics.length := by
      have bounds := List.mem_zipIdx listed
      omega
    unfold errorsBefore
    rw [List.take_append_of_le_length inside]
  have last : errorsBefore (diagnostics ++ [diagnostic]) diagnostics.length =
      diagnostics.countP Diagnostic.isError := by
    unfold errorsBefore
    rw [List.take_left]
  unfold selection
  rw [List.zipIdx_append, List.filter_append, List.map_append, admitted_one]
  congr 1
  · congr 1
    apply List.filter_congr
    intro entry listed
    rw [earlier entry listed]
  · rw [Nat.zero_add, List.zipIdx_singleton]
    by_cases isError : diagnostic.isError
    · by_cases room : limits.Room (diagnostics.countP Diagnostic.isError) <;>
        simp [last, isError, room]
    · simp [isError]

theorem admitted_append (counted : Nat) (first second : List Diagnostic) :
    limits.admitted counted (first ++ second) =
      limits.admitted counted first ++
        limits.admitted (counted + first.countP Diagnostic.isError) second := by
  induction first generalizing counted with
  | nil => rfl
  | cons diagnostic rest ih =>
      rw [List.cons_append, admitted_cons, ih, admitted_cons limits counted diagnostic rest,
        List.append_assoc, List.countP_cons, Nat.add_assoc, Nat.add_comm (List.countP _ _)]

theorem admitted_eq_selection (diagnostics : List Diagnostic) :
    limits.admitted 0 diagnostics = limits.selection diagnostics := by
  induction diagnostics using List.reverseRecOn with
  | nil => rfl
  | append_singleton diagnostics diagnostic ih =>
      rw [admitted_append, selection_snoc, ih, Nat.zero_add]

/-- The limit tells errors from one another by their number only, and leaves warnings alone. -/
theorem admitted_by_severity (counted : Nat) (diagnostics : List Diagnostic) :
    (limits.admitted counted diagnostics).filter Diagnostic.isError =
        limits.admitted counted (diagnostics.filter Diagnostic.isError) ∧
      (limits.admitted counted diagnostics).filter (fun diagnostic => !diagnostic.isError) =
        diagnostics.filter fun diagnostic => !diagnostic.isError := by
  induction diagnostics generalizing counted with
  | nil => exact ⟨rfl, rfl⟩
  | cons diagnostic rest ih =>
      by_cases isError : diagnostic.isError
      · by_cases room : limits.Room counted <;> simp [admitted, isError, room, ih]
      · simp [admitted, isError, ih]

theorem keep_all_eq_eraseDups (drops : limits.dropDuplicates = true)
    (diagnostics : List Diagnostic) :
    limits.keepAll [] diagnostics = diagnostics.eraseDups := by
  -- From the end, since both look for an equal one among those that stand before.
  induction diagnostics using List.reverseRecOn with
  | nil => rfl
  | append_singleton diagnostics diagnostic ih =>
      rw [keep_all_snoc, ih, List.eraseDups_append, keep]
      have alone : [diagnostic].eraseDups = [diagnostic] := rfl
      by_cases duplicate : diagnostic ∈ diagnostics <;>
        simp [drops, duplicate, List.cons_removeAll, alone]

/-- What is kept of a sequence: its selection, or the first copies in it where duplicates are
dropped. -/
def collected (limits : Limits) (diagnostics : List Diagnostic) : List Diagnostic :=
  if limits.dropDuplicates then (limits.selection diagnostics).eraseDups
  else limits.selection diagnostics

theorem keep_all_admitted (diagnostics : List Diagnostic) :
    limits.keepAll [] (limits.admitted 0 diagnostics) = limits.collected diagnostics := by
  unfold collected
  rw [admitted_eq_selection]
  split
  · next drops => exact limits.keep_all_eq_eraseDups drops _
  · next stay =>
      rw [Bool.not_eq_true] at stay
      exact limits.keep_all_with_duplicates stay [] _

end Limits

namespace Queue

/-- What the pushes of a sequence hand back, one after the other. -/
def answers (queue : Queue) : List Diagnostic → List (Option Reported)
  | [] => []
  | diagnostic :: rest =>
      (queue.push diagnostic).2 :: (queue.push diagnostic).1.answers rest

theorem answers_reported (queue : Queue) (diagnostics : List Diagnostic) :
    (queue.answers diagnostics).map Option.isSome = diagnostics.map Diagnostic.isError := by
  induction diagnostics generalizing queue with
  | nil => rfl
  | cons diagnostic rest ih =>
      have here : (queue.push diagnostic).2.isSome = diagnostic.isError := by
        unfold push
        cases diagnostic.isError <;> rfl
      rw [answers, List.map_cons, List.map_cons, here, ih]

theorem fresh_push_all_kept (limits : Limits) (diagnostics : List Diagnostic) :
    ((ofLimits limits).pushAll diagnostics).kept = limits.collected diagnostics :=
  (push_all_kept (ofLimits limits) diagnostics).trans (limits.keep_all_admitted diagnostics)

theorem fresh_push_all_errors (limits : Limits) (diagnostics : List Diagnostic) :
    ((ofLimits limits).pushAll diagnostics).errors = diagnostics.countP Diagnostic.isError :=
  (push_all_errors (ofLimits limits) diagnostics).trans (Nat.zero_add _)

/-- Pushed onto an empty queue, a sequence leaves its warnings and as many of its first errors as
the limit says, in order and without later copies where duplicates are dropped. All its errors are
counted, and each of them is reported to whoever pushes it. -/
theorem pushed_in_closed_form (limits : Limits) (diagnostics : List Diagnostic) :
    let queue := (ofLimits limits).pushAll diagnostics
    let selection := limits.selection diagnostics
    let errors := diagnostics.filter Diagnostic.isError
    queue.kept = (if limits.dropDuplicates then selection.eraseDups else selection) ∧
      selection.Sublist diagnostics ∧
      selection.filter (fun diagnostic => !diagnostic.isError) =
        diagnostics.filter (fun diagnostic => !diagnostic.isError) ∧
      selection.filter Diagnostic.isError =
        (if limits.errors = 0 then errors else errors.take limits.errors) ∧
      queue.errors = errors.length ∧
      ((ofLimits limits).answers diagnostics).map Option.isSome =
        diagnostics.map Diagnostic.isError := by
  intro queue selection errors
  have selected : limits.admitted 0 diagnostics = selection :=
    limits.admitted_eq_selection diagnostics
  have inOrder := limits.admitted_sublist 0 diagnostics
  obtain ⟨firstErrors, warnings⟩ := limits.admitted_by_severity 0 diagnostics
  have allErrors : ∀ diagnostic ∈ errors, diagnostic.isError := by
    intro diagnostic listed
    exact (List.mem_filter.1 listed).2
  rw [limits.admitted_errors allErrors 0] at firstErrors
  rw [selected] at inOrder firstErrors warnings
  refine ⟨fresh_push_all_kept limits diagnostics, inOrder, warnings, firstErrors, ?_,
    answers_reported (ofLimits limits) diagnostics⟩
  rw [← List.countP_eq_length_filter]
  exact fresh_push_all_errors limits diagnostics

/-- A repeated error is not kept again and still takes the second place under the limit. -/
example : ((ofLimits ⟨2, true⟩).pushAll [.error .noConversion, .error .noConversion,
    .warning .unresolvedSymbol, .error .ambiguousConversion]).kept =
      [.error .noConversion, .warning .unresolvedSymbol] := by
  decide

end Queue

end NativeBinding
