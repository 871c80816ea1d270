import Mathlib.Data.List.Nodup
import NativeBinding.Proofs.Diagnostic.Collecting

/-!
# Evidence of reported errors

A queue comes about by creating it, pushing to it, moving another queue into it and flushing it. The
queue that is moved in came about in the same way, under limits of its own. However it came about,
it keeps no more errors than it counts and counts none without keeping one, so evidence that an
error was reported always has a kept error behind it.
-/

set_option autoImplicit false

namespace NativeBinding.Queue

inductive Reachable : Queue → Prop where
  | start (limits : Limits) : Reachable (ofLimits limits)
  | push {queue : Queue} (earlier : Reachable queue) (diagnostic : Diagnostic) :
      Reachable (queue.push diagnostic).1
  | extend {queue other : Queue} (earlier : Reachable queue) (moved : Reachable other) :
      Reachable (queue.extend other)
  | flush {queue : Queue} (earlier : Reachable queue) : Reachable queue.flush.1

theorem reachable_push_all {queue : Queue} (earlier : queue.Reachable)
    (diagnostics : List Diagnostic) : (queue.pushAll diagnostics).Reachable := by
  unfold pushAll
  induction diagnostics generalizing queue with
  | nil => exact earlier
  | cons diagnostic rest ih => exact ih (earlier.push diagnostic)

theorem kept_error_iff (queue : Queue) :
    0 < queue.keptErrors ↔ ∃ diagnostic ∈ queue.kept, diagnostic.isError :=
  List.countP_pos_iff

/-- A push keeps the diagnostic, or drops it. An error is dropped only behind another one: beyond
the limit some error has been counted, and a duplicate is in the queue already. -/
theorem push_cases (queue : Queue) (diagnostic : Diagnostic) :
    ((queue.push diagnostic).1.kept = queue.kept ++ [diagnostic] ∧
      (diagnostic.isError → queue.limits.Room queue.errors) ∧
      (queue.limits.dropDuplicates → diagnostic ∉ queue.kept)) ∨
    ((queue.push diagnostic).1.kept = queue.kept ∧
      (diagnostic.isError → 0 < queue.errors ∨ diagnostic ∈ queue.kept)) := by
  rw [push_kept, Limits.admitted_one]
  by_cases refused : diagnostic.isError ∧ ¬queue.limits.Room queue.errors
  · -- A limit of zero always leaves room, so whoever is refused comes after a counted error.
    have full := refused.2
    unfold Limits.Room at full
    rw [if_pos refused]
    exact .inr ⟨rfl, fun _ => .inl (by omega)⟩
  · have one : queue.limits.keepAll queue.kept [diagnostic] =
        queue.limits.keep queue.kept diagnostic := rfl
    rw [if_neg refused, one, Limits.keep]
    split
    · next duplicate => exact .inr ⟨rfl, fun _ => .inr duplicate.2⟩
    · next fresh =>
        refine .inl ⟨rfl, ?_, fun drops duplicate => fresh ⟨drops, duplicate⟩⟩
        intro isError
        by_contra full
        exact refused ⟨isError, full⟩

/-- What every queue keeps true, whatever has been done to it. -/
structure Sound (queue : Queue) : Prop where
  counted : queue.keptErrors ≤ queue.errors
  limited : 0 < queue.limits.errors → queue.keptErrors ≤ queue.limits.errors
  distinct : queue.limits.dropDuplicates → queue.kept.Nodup
  evident : 0 < queue.errors → 0 < queue.keptErrors

theorem sound_empty {queue : Queue} (keeps : queue.kept = []) (counts : queue.errors = 0) :
    queue.Sound := by
  have noErrors : queue.keptErrors = 0 := by
    unfold keptErrors
    rw [keeps]
    rfl
  refine ⟨?_, ?_, ?_, ?_⟩
  · omega
  · omega
  · intro _
    rw [keeps]
    exact List.nodup_nil
  · omega

section

variable {queue : Queue} {diagnostic : Diagnostic}

theorem sound_push_kept (sound : queue.Sound)
    (added : (queue.push diagnostic).1.kept = queue.kept ++ [diagnostic])
    (room : diagnostic.isError → queue.limits.Room queue.errors)
    (fresh : queue.limits.dropDuplicates → diagnostic ∉ queue.kept) :
    (queue.push diagnostic).1.Sound := by
  have errors := push_errors queue diagnostic
  have sameLimits : (queue.push diagnostic).1.limits = queue.limits := rfl
  have keptErrors : (queue.push diagnostic).1.keptErrors =
      queue.keptErrors + if diagnostic.isError then 1 else 0 := by
    unfold Queue.keptErrors
    rw [added, List.countP_append, List.countP_singleton]
  refine ⟨kept_errors_push sound.counted diagnostic, ?_, ?_, ?_⟩
  · intro limit
    rw [sameLimits] at limit ⊢
    rw [keptErrors]
    have before := sound.limited limit
    split
    · next isError =>
        have left := room isError
        have below := sound.counted
        unfold Limits.Room at left
        omega
    · exact before
  · intro drops
    rw [added, List.nodup_append]
    refine ⟨sound.distinct drops, List.nodup_singleton _, ?_⟩
    intro kept listed other pushed same
    rw [same, List.mem_singleton.1 pushed] at listed
    exact fresh drops listed
  · intro reported
    rw [errors] at reported
    rw [keptErrors]
    split at reported
    · next isError =>
        rw [if_pos isError]
        omega
    · have before := sound.evident reported
      omega

theorem sound_push_dropped (sound : queue.Sound)
    (same : (queue.push diagnostic).1.kept = queue.kept)
    (behind : diagnostic.isError → 0 < queue.errors ∨ diagnostic ∈ queue.kept) :
    (queue.push diagnostic).1.Sound := by
  have errors := push_errors queue diagnostic
  have keptErrors : (queue.push diagnostic).1.keptErrors = queue.keptErrors := by
    unfold Queue.keptErrors
    rw [same]
  refine ⟨kept_errors_push sound.counted diagnostic, ?_, ?_, ?_⟩
  · rw [keptErrors]
    exact sound.limited
  · rw [same]
    exact sound.distinct
  · intro reported
    rw [errors] at reported
    rw [keptErrors]
    split at reported
    · next isError =>
        rcases behind isError with counted | kept
        · exact sound.evident counted
        · exact (kept_error_iff queue).2 ⟨diagnostic, kept, isError⟩
    · exact sound.evident reported

end

theorem sound_push {queue : Queue} (sound : queue.Sound) (diagnostic : Diagnostic) :
    (queue.push diagnostic).1.Sound := by
  rcases push_cases queue diagnostic with ⟨added, room, fresh⟩ | ⟨same, behind⟩
  · exact sound_push_kept sound added room fresh
  · exact sound_push_dropped sound same behind

theorem sound_push_all {queue : Queue} (sound : queue.Sound) (diagnostics : List Diagnostic) :
    (queue.pushAll diagnostics).Sound := by
  unfold pushAll
  induction diagnostics generalizing queue with
  | nil => exact sound
  | cons diagnostic rest ih => exact ih (sound_push sound diagnostic)

/-- The errors that the other queue dropped are counted without being pushed. They need no place of
their own: where there are any, the other queue kept one too, and that one is pushed. -/
theorem sound_extend {queue other : Queue} (sound : queue.Sound) (moved : other.Sound) :
    (queue.extend other).Sound := by
  have pushed := sound_push_all sound other.kept
  have counts := extend_errors queue moved.counted
  have pushedErrors : (queue.pushAll other.kept).errors = queue.errors + other.keptErrors :=
    push_all_errors queue other.kept
  have sameKept : (queue.extend other).keptErrors = (queue.pushAll other.kept).keptErrors := rfl
  refine ⟨?_, pushed.limited, pushed.distinct, ?_⟩
  · have below := pushed.counted
    have movedBelow := moved.counted
    omega
  · intro reported
    rw [sameKept]
    apply pushed.evident
    have movedEvident := moved.evident
    omega

theorem sound_reachable {queue : Queue} (reached : queue.Reachable) : queue.Sound := by
  induction reached with
  | start limits => exact sound_empty rfl rfl
  | push earlier diagnostic ih => exact sound_push ih diagnostic
  | extend earlier moved ih movedSound => exact sound_extend ih movedSound
  | flush earlier ih => exact sound_empty rfl rfl

theorem reported_iff_kept {queue : Queue} (sound : queue.Sound) :
    0 < queue.errors ↔ ∃ diagnostic ∈ queue.kept, diagnostic.isError := by
  rw [← kept_error_iff]
  exact ⟨sound.evident, fun kept => Nat.lt_of_lt_of_le kept sound.counted⟩

theorem guarantee_iff (queue : Queue) : queue.guarantee.isSome ↔ 0 < queue.errors := by
  unfold guarantee Reported.ofCount
  split
  · next reported => simp [reported]
  · next nothing => simp [nothing]

/-- Whatever has been pushed, merged and flushed: a queue keeps no more errors than it counts, no
more than its limit and no diagnostic twice where duplicates are dropped. Merging adds the counts,
and errors are counted, had or guaranteed exactly when one is kept. -/
theorem counted_errors_are_kept {queue : Queue} (reached : queue.Reachable) :
    queue.keptErrors ≤ queue.errors ∧
      (∀ other : Queue, other.Reachable →
        (queue.extend other).errors = queue.errors + other.errors) ∧
      (0 < queue.limits.errors → queue.keptErrors ≤ queue.limits.errors) ∧
      (queue.limits.dropDuplicates → queue.kept.Nodup) ∧
      (0 < queue.errors ↔ ∃ diagnostic ∈ queue.kept, diagnostic.isError) ∧
      (queue.hasErrors ↔ ∃ diagnostic ∈ queue.kept, diagnostic.isError) ∧
      (queue.guarantee.isSome ↔ ∃ diagnostic ∈ queue.kept, diagnostic.isError) := by
  have sound := sound_reachable reached
  have reported := reported_iff_kept sound
  refine ⟨sound.counted, ?_, sound.limited, sound.distinct, reported, ?_, ?_⟩
  · intro other otherReached
    exact extend_errors queue (sound_reachable otherReached).counted
  · exact decide_eq_true_iff.trans reported
  · exact (guarantee_iff queue).trans reported

/-- A flushed queue with room for one error, into which a queue is moved that keeps all it gets. -/
def afterMerge : Queue :=
  let repeated := Diagnostic.error .noConversion
  let flushed := ((ofLimits ⟨1, true⟩).push repeated).1.flush.1
  flushed.extend ((ofLimits .unlimited).pushAll
    [repeated, .warning .unresolvedSymbol, repeated, .error .ambiguousConversion])

theorem merged_beyond_the_limit :
    afterMerge.Reachable ∧ afterMerge.errors = 3 ∧ afterMerge.keptErrors = 1 ∧
      afterMerge.kept.Nodup ∧ (∃ diagnostic ∈ afterMerge.kept, diagnostic.isError) ∧
      (afterMerge.extend afterMerge).errors = 3 + 3 := by
  have other : ((ofLimits .unlimited).pushAll [.error .noConversion, .warning .unresolvedSymbol,
      .error .noConversion, .error .ambiguousConversion]).Reachable :=
    ((((Reachable.start .unlimited).push _).push _).push _).push _
  have reached : afterMerge.Reachable :=
    ((Reachable.start ⟨1, true⟩).push (.error .noConversion)).flush.extend other
  obtain ⟨-, sums, -, distinct, kept, -, -⟩ := counted_errors_are_kept reached
  exact ⟨reached, rfl, by decide, distinct rfl, kept.1 (by decide), sums afterMerge reached⟩

end NativeBinding.Queue
