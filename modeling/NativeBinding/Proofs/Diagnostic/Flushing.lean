import NativeBinding.Proofs.Diagnostic.Pushing

/-!
# Flushing a queue

A flush hands out what the queue keeps, sorted by where its diagnostics point to; those that point
to one place stay in order of arrival. What it leaves is the queue as it was created. So the limit
and the duplicates that come after a flush are judged without what came before it.
-/

set_option autoImplicit false

namespace NativeBinding

namespace Diagnostic

/-- A diagnostic points to where its first primary label starts. Context labels have no say: without
a primary one it points to the start of its source. -/
inductive PointsTo (diagnostic : Diagnostic) : Nat → Prop where
  | primary {before after : List Label} {label : Label}
      (labels : diagnostic.labels = before ++ label :: after)
      (context : ∀ other ∈ before, other.role = .context) (primary : label.role = .primary) :
      PointsTo diagnostic label.span.start
  | start (context : ∀ label ∈ diagnostic.labels, label.role = .context) :
      PointsTo diagnostic 0

theorem role_context_iff (label : Label) :
    label.role = .context ↔ (label.role == .primary) = false := by
  cases label.role <;> decide

theorem primarySpan_eq_none_iff (diagnostic : Diagnostic) :
    diagnostic.primarySpan? = none ↔ ∀ label ∈ diagnostic.labels, label.role = .context := by
  unfold primarySpan?
  simp only [Option.map_eq_none_iff, List.find?_eq_none, Bool.not_eq_true, role_context_iff]

theorem primarySpan_eq_some_iff (diagnostic : Diagnostic) (span : Span) :
    diagnostic.primarySpan? = some span ↔
      ∃ before label after, diagnostic.labels = before ++ label :: after ∧
        (∀ other ∈ before, other.role = .context) ∧ label.role = .primary ∧
        label.span = span := by
  unfold primarySpan?
  rw [Option.map_eq_some_iff]
  simp only [List.find?_eq_some_iff_append, role_context_iff, Bool.not_eq_true', beq_iff_eq]
  constructor
  · rintro ⟨label, ⟨primary, before, after, labels, context⟩, same⟩
    exact ⟨before, label, after, labels, context, primary, same⟩
  · rintro ⟨before, label, after, labels, context, primary, same⟩
    exact ⟨label, ⟨primary, before, after, labels, context⟩, same⟩

theorem points_to_iff (diagnostic : Diagnostic) (start : Nat) :
    diagnostic.PointsTo start ↔ diagnostic.position = start := by
  unfold position
  constructor
  · intro points
    cases points with
    | @primary before after label labels context primary =>
        rw [(primarySpan_eq_some_iff diagnostic label.span).2
          ⟨before, label, after, labels, context, primary, rfl⟩]
    | start context => rw [(primarySpan_eq_none_iff diagnostic).2 context]
  · intro placed
    cases found : diagnostic.primarySpan? with
    | none =>
        rw [found] at placed
        cases placed
        exact .start ((primarySpan_eq_none_iff diagnostic).1 found)
    | some span =>
        rw [found] at placed
        cases placed
        obtain ⟨before, label, after, labels, context, primary, rfl⟩ :=
          (primarySpan_eq_some_iff diagnostic span).1 found
        exact .primary labels context primary

theorem position_le_trans (first second third : Diagnostic)
    (left : decide (first.position ≤ second.position) = true)
    (right : decide (second.position ≤ third.position) = true) :
    decide (first.position ≤ third.position) = true := by
  rw [decide_eq_true_eq] at left right ⊢
  omega

theorem position_le_total (first second : Diagnostic) :
    (decide (first.position ≤ second.position) ||
      decide (second.position ≤ first.position)) = true := by
  rw [Bool.or_eq_true, decide_eq_true_eq, decide_eq_true_eq]
  omega

end Diagnostic

namespace Queue

/-- What is done to a queue. A queue that is moved in may have come about in any way. -/
inductive Operation where
  | push (diagnostic : Diagnostic)
  | extend (other : Queue)
  | flush

inductive Answer where
  | pushed (reported : Option Reported)
  | extended
  | flushed (listed : List Diagnostic)

def perform (queue : Queue) : Operation → Queue × Answer
  | .push diagnostic => ((queue.push diagnostic).1, .pushed (queue.push diagnostic).2)
  | .extend other => (queue.extend other, .extended)
  | .flush => (queue.flush.1, .flushed queue.flush.2)

def performAll (queue : Queue) : List Operation → Queue × List Answer
  | [] => (queue, [])
  | operation :: rest =>
      let first := queue.perform operation
      let others := first.1.performAll rest
      (others.1, first.2 :: others.2)

theorem limits_perform (queue : Queue) (operation : Operation) :
    (queue.perform operation).1.limits = queue.limits := by
  cases operation with
  | push diagnostic => rfl
  | extend other => exact push_all_limits queue other.kept
  | flush => rfl

theorem limits_performAll (queue : Queue) (operations : List Operation) :
    (queue.performAll operations).1.limits = queue.limits := by
  induction operations generalizing queue with
  | nil => rfl
  | cons operation rest ih => exact (ih _).trans (limits_perform queue operation)

theorem flush_fresh (queue : Queue) : queue.flush.1 = ofLimits queue.limits := rfl

section

variable (queue : Queue)

theorem flush_perm : queue.flush.2.Perm queue.kept := List.mergeSort_perm _ _

theorem flush_sorted :
    queue.flush.2.Pairwise fun earlier later => earlier.position ≤ later.position := by
  have sorted := List.pairwise_mergeSort Diagnostic.position_le_trans
    Diagnostic.position_le_total queue.kept
  apply sorted.imp
  intro earlier later ordered
  exact of_decide_eq_true ordered

/-- Those that point to one place are in order among themselves already, so the sort keeps them as a
sublist, and it keeps their number. -/
theorem flush_stable (start : Nat) :
    queue.flush.2.filter (fun diagnostic => diagnostic.position = start) =
      queue.kept.filter fun diagnostic => diagnostic.position = start := by
  let here (diagnostic : Diagnostic) : Bool := diagnostic.position = start
  have level : (queue.kept.filter here).Pairwise fun earlier later =>
      decide (earlier.position ≤ later.position) = true := by
    apply List.pairwise_of_forall_mem_list
    intro earlier listed later otherListed
    have first := of_decide_eq_true (List.mem_filter.1 listed).2
    have second := of_decide_eq_true (List.mem_filter.1 otherListed).2
    rw [decide_eq_true_eq]
    omega
  have inFlushed : (queue.kept.filter here).Sublist queue.flush.2 :=
    List.sublist_mergeSort Diagnostic.position_le_trans Diagnostic.position_le_total level
      List.filter_sublist
  have inHere := inFlushed.filter here
  rw [List.filter_filter] at inHere
  simp only [Bool.and_self] at inHere
  exact (inHere.eq_of_length ((flush_perm queue).filter here).length_eq.symm).symm

end

/-- An error is the first one on a fresh queue, whatever the limit. -/
theorem fresh_push_error (limits : Limits) {diagnostic : Diagnostic}
    (isError : diagnostic.isError) :
    ((ofLimits limits).push diagnostic).1.kept = [diagnostic] ∧
      ((ofLimits limits).push diagnostic).1.errors = 1 := by
  have room : limits.Room 0 := by
    unfold Limits.Room
    omega
  constructor
  · rw [push_kept]
    change limits.keepAll [] (limits.admitted 0 [diagnostic]) = [diagnostic]
    rw [Limits.admitted_one, if_neg (fun refused => refused.2 room)]
    simp [Limits.keepAll, Limits.keep]
  · rw [push_errors, if_pos isError]
    rfl

/-- Whatever has been done to a queue, a flush lists what it keeps by position, those of one
position in order of arrival. It leaves the queue as it was created: all that is done to it
afterwards, and whatever that hands back, is as on a new queue, so an error can be kept and counted
once more. -/
theorem flush_lists_and_restarts (limits : Limits) (history : List Operation) :
    let queue := ((ofLimits limits).performAll history).1
    let listed := queue.flush.2
    let left := queue.flush.1
    listed.Perm queue.kept ∧
      listed.Pairwise (fun earlier later => earlier.position ≤ later.position) ∧
      (∀ start, listed.filter (fun diagnostic => diagnostic.position = start) =
        queue.kept.filter fun diagnostic => diagnostic.position = start) ∧
      (∀ (diagnostic : Diagnostic) (start : Nat),
        diagnostic.PointsTo start ↔ diagnostic.position = start) ∧
      left = ofLimits limits ∧
      (∀ later, left.performAll later = (ofLimits limits).performAll later) ∧
      (∀ diagnostics, (left.pushAll diagnostics).kept = limits.collected diagnostics ∧
        (left.pushAll diagnostics).errors = diagnostics.countP Diagnostic.isError) ∧
      ∀ diagnostic ∈ listed, diagnostic.isError →
        (left.push diagnostic).1.kept = [diagnostic] ∧ (left.push diagnostic).1.errors = 1 := by
  intro queue listed left
  have sameLimits : queue.limits = limits := limits_performAll (ofLimits limits) history
  have fresh : left = ofLimits limits := by
    rw [← sameLimits]
    exact flush_fresh queue
  refine ⟨flush_perm queue, flush_sorted queue, flush_stable queue, Diagnostic.points_to_iff, fresh,
    ?_, ?_, ?_⟩
  · intro later
    rw [fresh]
  · intro diagnostics
    rw [fresh]
    exact ⟨fresh_push_all_kept limits diagnostics, fresh_push_all_errors limits diagnostics⟩
  · intro diagnostic _ isError
    rw [fresh]
    exact fresh_push_error limits isError

def lateError : Diagnostic :=
  (Diagnostic.error .noConversion).decorateAll [.label ⟨7, 9⟩ "cannot convert to `int`"]

/-- Its only label is one of context, so it points to the start. -/
def hint : Diagnostic :=
  (Diagnostic.warning .unresolvedSymbol).decorateAll [.context ⟨8, 9⟩ "declared here"]

theorem late_error_kept_again :
    let queue := ((ofLimits ⟨1, true⟩).performAll
      [.push lateError, .push hint, .push lateError, .push hint]).1
    queue.errors = 2 ∧ lateError ∈ queue.flush.2 ∧
      queue.flush.2.filter (fun diagnostic => diagnostic.position = 0) = [hint] ∧
      (queue.flush.1.push lateError).1.kept = [lateError] ∧
      (queue.flush.1.push lateError).1.errors = 1 := by
  intro queue
  have kept : queue.kept = [lateError, hint] := by decide
  obtain ⟨perm, -, stable, -, -, -, -, again⟩ := flush_lists_and_restarts ⟨1, true⟩
    [.push lateError, .push hint, .push lateError, .push hint]
  have listed : lateError ∈ queue.flush.2 := by
    apply perm.mem_iff.2
    change lateError ∈ queue.kept
    rw [kept]
    exact List.mem_cons_self
  refine ⟨by decide, listed, ?_, again lateError listed rfl⟩
  apply (stable 0).trans
  change queue.kept.filter _ = _
  rw [kept]
  decide

example : ((ofLimits .unlimited).pushAll [lateError, hint]).flush.2 = [hint, lateError] := by
  cbv

end Queue

end NativeBinding
