import Mathlib.Data.List.Induction
import NativeBinding.Diagnostic.Queue

/-!
# What a queue keeps

Limit and duplicates are two filters, one after the other. The limit admits by position: it counts
every error, also those that are then dropped as duplicates. Duplicates are judged against what is
kept, so a diagnostic that the limit refused does not make a later one a duplicate.
-/

set_option autoImplicit false

namespace NativeBinding

namespace Limits

def keep (limits : Limits) (kept : List Diagnostic) (diagnostic : Diagnostic) :
    List Diagnostic :=
  if limits.dropDuplicates ∧ diagnostic ∈ kept then kept else kept ++ [diagnostic]

def keepAll (limits : Limits) (kept diagnostics : List Diagnostic) : List Diagnostic :=
  diagnostics.foldl limits.keep kept

/-- Whether there is room for one more error after this many. -/
def Room (limits : Limits) (counted : Nat) : Prop :=
  limits.errors = 0 ∨ counted < limits.errors

instance (limits : Limits) (counted : Nat) : Decidable (limits.Room counted) :=
  inferInstanceAs (Decidable (_ ∨ _))

/-- What the limit lets through after this many errors: no error beyond it, and all the rest. -/
def admitted (limits : Limits) : Nat → List Diagnostic → List Diagnostic
  | _, [] => []
  | counted, diagnostic :: rest =>
      if diagnostic.isError then
        if limits.Room counted then diagnostic :: limits.admitted (counted + 1) rest
        else limits.admitted (counted + 1) rest
      else diagnostic :: limits.admitted counted rest

variable (limits : Limits)

theorem keep_all_append (kept first second : List Diagnostic) :
    limits.keepAll kept (first ++ second) = limits.keepAll (limits.keepAll kept first) second :=
  List.foldl_append

theorem keep_all_snoc (kept diagnostics : List Diagnostic) (diagnostic : Diagnostic) :
    limits.keepAll kept (diagnostics ++ [diagnostic]) =
      limits.keep (limits.keepAll kept diagnostics) diagnostic :=
  limits.keep_all_append kept diagnostics [diagnostic]

theorem mem_keep (kept : List Diagnostic) (diagnostic other : Diagnostic) :
    other ∈ limits.keep kept diagnostic ↔ other ∈ kept ∨ other = diagnostic := by
  unfold keep
  split
  · next duplicate =>
      constructor
      · exact .inl
      · rintro (inKept | rfl)
        · exact inKept
        · exact duplicate.2
  · simp

theorem mem_keep_all (kept diagnostics : List Diagnostic) (other : Diagnostic) :
    other ∈ limits.keepAll kept diagnostics ↔ other ∈ kept ∨ other ∈ diagnostics := by
  induction diagnostics using List.reverseRecOn with
  | nil => simp [keepAll]
  | append_singleton diagnostics diagnostic ih =>
      rw [keep_all_snoc, mem_keep, ih, List.mem_append, List.mem_singleton, or_assoc]

theorem prefix_keep (kept : List Diagnostic) (diagnostic : Diagnostic) :
    kept <+: limits.keep kept diagnostic := by
  unfold keep
  split
  · exact List.prefix_rfl
  · exact List.prefix_append _ _

theorem prefix_keep_all (kept diagnostics : List Diagnostic) :
    kept <+: limits.keepAll kept diagnostics := by
  induction diagnostics using List.reverseRecOn with
  | nil => exact List.prefix_rfl
  | append_singleton diagnostics diagnostic ih =>
      rw [keep_all_snoc]
      exact ih.trans (limits.prefix_keep _ diagnostic)

theorem keep_all_prefix (kept : List Diagnostic) {fewer more : List Diagnostic}
    (start : fewer <+: more) : limits.keepAll kept fewer <+: limits.keepAll kept more := by
  obtain ⟨rest, rfl⟩ := start
  rw [keep_all_append]
  exact limits.prefix_keep_all _ rest

theorem length_keep_le (kept : List Diagnostic) (diagnostic : Diagnostic) :
    (limits.keep kept diagnostic).length ≤ kept.length + 1 := by
  unfold keep
  split <;> simp

theorem length_keep_all_le (kept diagnostics : List Diagnostic) :
    (limits.keepAll kept diagnostics).length ≤ kept.length + diagnostics.length := by
  induction diagnostics using List.reverseRecOn with
  | nil => exact Nat.le_refl _
  | append_singleton diagnostics diagnostic ih =>
      have last := limits.length_keep_le (limits.keepAll kept diagnostics) diagnostic
      rw [keep_all_snoc, List.length_append, List.length_singleton]
      omega

theorem keep_all_with_duplicates (keeps : limits.dropDuplicates = false)
    (kept diagnostics : List Diagnostic) :
    limits.keepAll kept diagnostics = kept ++ diagnostics := by
  induction diagnostics using List.reverseRecOn with
  | nil => exact (List.append_nil kept).symm
  | append_singleton diagnostics diagnostic ih =>
      rw [keep_all_snoc, ih]
      simp [keep, keeps]

/-- Dropping duplicates first and then again against what is kept is dropping them once. -/
theorem keep_all_twice (kept diagnostics : List Diagnostic) :
    limits.keepAll kept (limits.keepAll [] diagnostics) = limits.keepAll kept diagnostics := by
  induction diagnostics using List.reverseRecOn with
  | nil => rfl
  | append_singleton diagnostics diagnostic ih =>
      rw [keep_all_snoc, keep_all_snoc, keep]
      split
      · next duplicate =>
          have earlier : diagnostic ∈ diagnostics := by
            simpa using (limits.mem_keep_all [] diagnostics diagnostic).1 duplicate.2
          have present := (limits.mem_keep_all kept diagnostics diagnostic).2 (.inr earlier)
          rw [ih, keep, if_pos ⟨duplicate.1, present⟩]
      · rw [keep_all_snoc, ih]

theorem admitted_one (counted : Nat) (diagnostic : Diagnostic) :
    limits.admitted counted [diagnostic] =
      if diagnostic.isError ∧ ¬limits.Room counted then [] else [diagnostic] := by
  by_cases isError : diagnostic.isError
  · by_cases room : limits.Room counted <;> simp [admitted, isError, room]
  · simp [admitted, isError]

theorem admitted_cons (counted : Nat) (diagnostic : Diagnostic) (rest : List Diagnostic) :
    limits.admitted counted (diagnostic :: rest) =
      limits.admitted counted [diagnostic] ++
        limits.admitted (counted + if diagnostic.isError then 1 else 0) rest := by
  by_cases isError : diagnostic.isError
  · by_cases room : limits.Room counted <;> simp [admitted, isError, room]
  · simp [admitted, isError]

theorem admitted_sublist (counted : Nat) (diagnostics : List Diagnostic) :
    (limits.admitted counted diagnostics).Sublist diagnostics := by
  induction diagnostics generalizing counted with
  | nil => exact List.Sublist.refl []
  | cons diagnostic rest ih =>
      simp only [admitted]
      split
      · split
        · exact (ih (counted + 1)).cons_cons diagnostic
        · exact (ih (counted + 1)).cons diagnostic
      · exact (ih counted).cons_cons diagnostic

theorem admitted_errors {diagnostics : List Diagnostic}
    (errors : ∀ diagnostic ∈ diagnostics, diagnostic.isError) (counted : Nat) :
    limits.admitted counted diagnostics =
      if limits.errors = 0 then diagnostics else diagnostics.take (limits.errors - counted) := by
  induction diagnostics generalizing counted with
  | nil => simp [admitted]
  | cons diagnostic rest ih =>
      have isError := errors diagnostic List.mem_cons_self
      have later := ih (fun other inRest => errors other (List.mem_cons_of_mem _ inRest))
        (counted + 1)
      simp only [admitted, isError, if_true, later, Room]
      by_cases unlimited : limits.errors = 0
      · simp [unlimited]
      · by_cases room : counted < limits.errors
        · have one : limits.errors - counted = limits.errors - (counted + 1) + 1 := by omega
          simp [unlimited, room, one]
        · have full : limits.errors - counted = 0 := by omega
          have fuller : limits.errors - (counted + 1) = 0 := by omega
          simp [unlimited, room, full, fuller]

end Limits

namespace Queue

theorem accepts_iff (queue : Queue) (errors : Nat) (diagnostic : Diagnostic) :
    queue.accepts errors diagnostic ↔
      ¬(diagnostic.isError ∧ 0 < queue.limits.errors ∧ queue.limits.errors < errors) ∧
        ¬(queue.limits.dropDuplicates ∧ diagnostic ∈ queue.kept) := by
  unfold accepts
  rw [Bool.and_eq_true, Bool.not_eq_true', Bool.not_eq_true', ← Bool.not_eq_true,
    ← Bool.not_eq_true]
  simp only [Bool.and_eq_true, decide_eq_true_eq, List.contains_iff_mem, and_assoc]

theorem push_errors (queue : Queue) (diagnostic : Diagnostic) :
    (queue.push diagnostic).1.errors =
      queue.errors + if diagnostic.isError then 1 else 0 := by
  simp only [push]
  split <;> rfl

theorem push_kept (queue : Queue) (diagnostic : Diagnostic) :
    (queue.push diagnostic).1.kept =
      queue.limits.keepAll queue.kept (queue.limits.admitted queue.errors [diagnostic]) := by
  have kept : (queue.push diagnostic).1.kept =
      if queue.accepts (queue.push diagnostic).1.errors diagnostic
      then queue.kept ++ [diagnostic] else queue.kept := rfl
  have beyond : (diagnostic.isError ∧ 0 < queue.limits.errors ∧
      queue.limits.errors < (queue.push diagnostic).1.errors) ↔
        diagnostic.isError ∧ ¬queue.limits.Room queue.errors := by
    rw [push_errors]
    unfold Limits.Room
    by_cases isError : diagnostic.isError
    · simp only [isError, if_true, true_and]
      omega
    · simp [isError]
  have accepted := (accepts_iff queue (queue.push diagnostic).1.errors diagnostic).trans
    (and_congr_left' (not_congr beyond))
  rw [kept, if_congr accepted rfl rfl, Limits.admitted_one]
  by_cases refused : diagnostic.isError ∧ ¬queue.limits.Room queue.errors
  · rw [if_pos refused, if_neg (fun both => both.1 refused)]
    rfl
  · rw [if_neg refused]
    by_cases duplicate : queue.limits.dropDuplicates ∧ diagnostic ∈ queue.kept
    · rw [if_neg (fun both => both.2 duplicate)]
      exact (if_pos duplicate).symm
    · rw [if_pos ⟨refused, duplicate⟩]
      exact (if_neg duplicate).symm

theorem push_all_limits (queue : Queue) (diagnostics : List Diagnostic) :
    (queue.pushAll diagnostics).limits = queue.limits := by
  unfold pushAll
  induction diagnostics generalizing queue with
  | nil => rfl
  | cons diagnostic rest ih => exact ih (queue.push diagnostic).1

theorem push_all_errors (queue : Queue) (diagnostics : List Diagnostic) :
    (queue.pushAll diagnostics).errors =
      queue.errors + diagnostics.countP Diagnostic.isError := by
  unfold pushAll
  induction diagnostics generalizing queue with
  | nil => rfl
  | cons diagnostic rest ih =>
      rw [List.foldl_cons, ih, push_errors, List.countP_cons]
      omega

/-- A queue keeps what its limit admits, less the duplicates. -/
theorem push_all_kept (queue : Queue) (diagnostics : List Diagnostic) :
    (queue.pushAll diagnostics).kept =
      queue.limits.keepAll queue.kept (queue.limits.admitted queue.errors diagnostics) := by
  unfold pushAll
  induction diagnostics generalizing queue with
  | nil => rfl
  | cons diagnostic rest ih =>
      have sameLimits : (queue.push diagnostic).1.limits = queue.limits := rfl
      rw [List.foldl_cons, ih, sameLimits, push_kept, push_errors,
        queue.limits.admitted_cons queue.errors diagnostic rest, Limits.keep_all_append]

theorem push_keeps_or_adds (queue : Queue) (diagnostic : Diagnostic) :
    (queue.push diagnostic).1.kept = queue.kept ∨
      (queue.push diagnostic).1.kept = queue.kept ++ [diagnostic] := by
  by_cases accepted : queue.accepts (queue.push diagnostic).1.errors diagnostic
  · exact .inr (if_pos accepted)
  · exact .inl (if_neg accepted)

theorem kept_errors_push {queue : Queue} (counted : queue.keptErrors ≤ queue.errors)
    (diagnostic : Diagnostic) :
    (queue.push diagnostic).1.keptErrors ≤ (queue.push diagnostic).1.errors := by
  rw [push_errors]
  unfold keptErrors at counted ⊢
  rcases queue.push_keeps_or_adds diagnostic with same | added
  · rw [same]
    omega
  · rw [added, List.countP_append, List.countP_singleton]
    omega

theorem kept_errors_push_all {queue : Queue} (counted : queue.keptErrors ≤ queue.errors)
    (diagnostics : List Diagnostic) :
    (queue.pushAll diagnostics).keptErrors ≤ (queue.pushAll diagnostics).errors := by
  unfold pushAll
  induction diagnostics generalizing queue with
  | nil => exact counted
  | cons diagnostic rest ih => exact ih (kept_errors_push counted diagnostic)

/-- What the other queue had dropped is added to what is pushed, so nothing counts twice. -/
theorem extend_errors (queue : Queue) {other : Queue}
    (counted : other.keptErrors ≤ other.errors) :
    (queue.extend other).errors = queue.errors + other.errors := by
  have moved := push_all_errors queue other.kept
  have added : (queue.extend other).errors =
      (queue.pushAll other.kept).errors + (other.errors - other.keptErrors) := rfl
  unfold keptErrors at counted added
  omega

end Queue

end NativeBinding
