import NativeBinding.Proofs.Diagnostic.Collecting

/-!
# Joining queues of errors

Batches of errors are collected each on a queue of its own and joined in order. The joined queue
counts what one queue for all batches counts, and keeps what that one keeps, in the same order. It
can keep more: a batch leaves its duplicates behind, so they no longer use up the limit when the
batch is joined. That happens in the batch in which the limit is reached and in no other.
-/

set_option autoImplicit false

namespace NativeBinding

namespace Limits

variable (limits : Limits) {diagnostics : List Diagnostic}

theorem admitted_full {counted : Nat} (full : ¬limits.Room counted)
    (errors : ∀ diagnostic ∈ diagnostics, diagnostic.isError) :
    limits.admitted counted diagnostics = [] := by
  unfold Room at full
  have limited : limits.errors ≠ 0 := by omega
  have nothing : limits.errors - counted = 0 := by omega
  rw [admitted_errors limits errors, if_neg limited, nothing, List.take_zero]

def batchKept (limits : Limits) (diagnostics : List Diagnostic) : List Diagnostic :=
  limits.keepAll [] (limits.admitted 0 diagnostics)

theorem mem_of_batch_kept {diagnostic : Diagnostic}
    (kept : diagnostic ∈ limits.batchKept diagnostics) : diagnostic ∈ diagnostics := by
  unfold batchKept at kept
  rw [mem_keep_all] at kept
  rcases kept with impossible | admitted
  · cases impossible
  · exact (limits.admitted_sublist 0 diagnostics).subset admitted

theorem batch_kept_errors (errors : ∀ diagnostic ∈ diagnostics, diagnostic.isError) :
    ∀ diagnostic ∈ limits.batchKept diagnostics, diagnostic.isError := by
  intro diagnostic kept
  exact errors diagnostic (limits.mem_of_batch_kept kept)

/-- A batch in which the limit is not reached is kept as if it had been pushed directly, and so is
every batch if duplicates stay. -/
theorem keep_batch (errors : ∀ diagnostic ∈ diagnostics, diagnostic.isError) (counted : Nat)
    (kept : List Diagnostic)
    (plain : limits.dropDuplicates = false ∨ limits.Room (counted + diagnostics.length)) :
    limits.keepAll kept (limits.admitted counted (limits.batchKept diagnostics)) =
      limits.keepAll kept (limits.admitted counted diagnostics) := by
  have batchErrors := batch_kept_errors limits errors
  rw [admitted_errors limits batchErrors, admitted_errors limits errors]
  unfold batchKept
  rw [admitted_errors limits errors]
  by_cases unlimited : limits.errors = 0
  · simp only [unlimited, if_true]
    exact limits.keep_all_twice kept diagnostics
  · simp only [unlimited, if_false, Nat.sub_zero]
    rcases plain with duplicatesStay | room
    · rw [keep_all_with_duplicates limits duplicatesStay [], List.nil_append, List.take_take,
        Nat.min_eq_left (Nat.sub_le _ _)]
    · unfold Room at room
      have short : diagnostics.length ≤ limits.errors - counted := by omega
      have all : diagnostics.take limits.errors = diagnostics :=
        List.take_of_length_le (by omega)
      have batchShort : (limits.keepAll [] diagnostics).length ≤ limits.errors - counted := by
        have bound := limits.length_keep_all_le [] diagnostics
        simp only [List.length_nil] at bound
        omega
      rw [all, List.take_of_length_le batchShort, List.take_of_length_le short]
      exact limits.keep_all_twice kept diagnostics

theorem keep_batch_prefix (errors : ∀ diagnostic ∈ diagnostics, diagnostic.isError)
    (counted : Nat) (kept : List Diagnostic) :
    limits.keepAll kept (limits.admitted counted diagnostics) <+:
      limits.keepAll kept (limits.admitted counted (limits.batchKept diagnostics)) := by
  have batchErrors := batch_kept_errors limits errors
  rw [admitted_errors limits batchErrors, admitted_errors limits errors]
  unfold batchKept
  rw [admitted_errors limits errors]
  by_cases unlimited : limits.errors = 0
  · simp only [unlimited, if_true]
    have twice := limits.keep_all_twice kept diagnostics
    simp only [twice, List.prefix_rfl]
  · simp only [unlimited, if_false, Nat.sub_zero]
    have start : diagnostics.take (limits.errors - counted) <+: diagnostics.take limits.errors :=
      List.take_prefix_take_left (Nat.sub_le _ _)
    rw [← limits.keep_all_twice kept (diagnostics.take (limits.errors - counted))]
    apply keep_all_prefix
    rw [List.prefix_take_iff]
    refine ⟨limits.keep_all_prefix [] start, ?_⟩
    have bound := limits.length_keep_all_le [] (diagnostics.take (limits.errors - counted))
    have taken := List.length_take_le (limits.errors - counted) diagnostics
    simp only [List.length_nil] at bound
    omega

end Limits

namespace Queue

theorem push_all_append (queue : Queue) (first second : List Diagnostic) :
    queue.pushAll (first ++ second) = (queue.pushAll first).pushAll second :=
  List.foldl_append

theorem push_all_counts {diagnostics : List Diagnostic}
    (errors : ∀ diagnostic ∈ diagnostics, diagnostic.isError) (queue : Queue) :
    (queue.pushAll diagnostics).errors = queue.errors + diagnostics.length := by
  rw [push_all_errors, List.countP_eq_length.2 errors]

theorem extend_limits (queue other : Queue) : (queue.extend other).limits = queue.limits :=
  push_all_limits queue other.kept

theorem extend_kept (queue other : Queue) :
    (queue.extend other).kept =
      queue.limits.keepAll queue.kept (queue.limits.admitted queue.errors other.kept) :=
  push_all_kept queue other.kept

def ofBatch (limits : Limits) (diagnostics : List Diagnostic) : Queue :=
  (ofLimits limits).pushAll diagnostics

theorem batch_kept (limits : Limits) (diagnostics : List Diagnostic) :
    (ofBatch limits diagnostics).kept = limits.batchKept diagnostics :=
  push_all_kept (ofLimits limits) diagnostics

theorem batch_counted (limits : Limits) (diagnostics : List Diagnostic) :
    (ofBatch limits diagnostics).keptErrors ≤ (ofBatch limits diagnostics).errors := by
  have start : (ofLimits limits).keptErrors ≤ (ofLimits limits).errors := Nat.le_refl 0
  exact kept_errors_push_all start diagnostics

def ofBatches (limits : Limits) (batches : List (List Diagnostic)) : Queue :=
  (batches.map (ofBatch limits)).foldl extend (ofLimits limits)

theorem batches_snoc (limits : Limits) (batches : List (List Diagnostic))
    (batch : List Diagnostic) :
    ofBatches limits (batches ++ [batch]) =
      (ofBatches limits batches).extend (ofBatch limits batch) := by
  unfold ofBatches
  rw [List.map_append, List.foldl_append]
  rfl

theorem batches_limits (limits : Limits) (batches : List (List Diagnostic)) :
    (ofBatches limits batches).limits = limits := by
  induction batches using List.reverseRecOn with
  | nil => rfl
  | append_singleton batches batch ih =>
      rw [batches_snoc, extend_limits]
      exact ih

/-- A joined queue keeps nothing that was not in one of its batches. -/
theorem mem_of_batches_kept {limits : Limits} {batches : List (List Diagnostic)}
    {diagnostic : Diagnostic} (kept : diagnostic ∈ (ofBatches limits batches).kept) :
    diagnostic ∈ batches.flatten := by
  induction batches using List.reverseRecOn with
  | nil => exact kept
  | append_singleton batches batch ih =>
      rw [batches_snoc, extend_kept, Limits.mem_keep_all, batch_kept] at kept
      rw [List.flatten_append, List.flatten_singleton, List.mem_append]
      rcases kept with earlier | joined
      · exact .inl (ih earlier)
      · exact .inr (limits.mem_of_batch_kept ((Limits.admitted_sublist _ _ _).subset joined))

/-- How a joined queue stands to the single queue of the same errors. Once they differ, neither of
them takes another error. -/
structure Follows (single joined : Queue) : Prop where
  limits : joined.limits = single.limits
  errors : joined.errors = single.errors
  kept : joined.kept = single.kept ∨
    (single.limits.dropDuplicates ∧ ¬single.limits.Room single.errors ∧
      single.kept <+: joined.kept)

theorem follows_prefix {single joined : Queue} (follows : Follows single joined) :
    single.kept <+: joined.kept := by
  rcases follows.kept with same | ⟨-, -, start⟩
  · simp only [same, List.prefix_rfl]
  · exact start

theorem follows_same {single joined : Queue} (follows : Follows single joined)
    (plain : single.limits.dropDuplicates = false ∨ single.limits.errors = 0) :
    joined.kept = single.kept := by
  rcases follows.kept with same | ⟨drops, full, -⟩
  · exact same
  · unfold Limits.Room at full
    rcases plain with duplicatesStay | unlimited
    · rw [duplicatesStay] at drops
      cases drops
    · exact absurd (.inl unlimited) full

theorem follows_batch {single joined : Queue} (follows : Follows single joined)
    {diagnostics : List Diagnostic} (errors : ∀ diagnostic ∈ diagnostics, diagnostic.isError) :
    Follows (single.pushAll diagnostics) (joined.extend (ofBatch single.limits diagnostics)) := by
  have singleErrors := push_all_counts errors single
  have singleLimits := push_all_limits single diagnostics
  have joinedKept := extend_kept joined (ofBatch single.limits diagnostics)
  rw [follows.limits, follows.errors, batch_kept] at joinedKept
  refine ⟨?_, ?_, ?_⟩
  · exact (extend_limits joined _).trans (follows.limits.trans singleLimits.symm)
  · have batchErrors : (ofBatch single.limits diagnostics).errors = 0 + diagnostics.length :=
      push_all_counts errors (ofLimits single.limits)
    rw [extend_errors joined (batch_counted single.limits diagnostics), singleErrors,
      follows.errors, batchErrors, Nat.zero_add]
  · rw [singleLimits, singleErrors, push_all_kept single diagnostics, joinedKept]
    rcases follows.kept with same | ⟨drops, full, start⟩
    · rw [same]
      by_cases plain : single.limits.dropDuplicates = false ∨
          single.limits.Room (single.errors + diagnostics.length)
      · exact .inl (single.limits.keep_batch errors single.errors single.kept plain)
      · rw [not_or, Bool.not_eq_false] at plain
        exact .inr ⟨plain.1, plain.2,
          single.limits.keep_batch_prefix errors single.errors single.kept⟩
    · have stillFull : ¬single.limits.Room (single.errors + diagnostics.length) := by
        unfold Limits.Room at full ⊢
        omega
      rw [single.limits.admitted_full full errors,
        single.limits.admitted_full full (single.limits.batch_kept_errors errors)]
      exact .inr ⟨drops, stillFull, start⟩

theorem follows_batches (limits : Limits) {batches : List (List Diagnostic)}
    (errors : ∀ batch ∈ batches, ∀ diagnostic ∈ batch, diagnostic.isError) :
    Follows (ofBatch limits batches.flatten) (ofBatches limits batches) := by
  induction batches using List.reverseRecOn with
  | nil => exact ⟨rfl, rfl, .inl rfl⟩
  | append_singleton batches batch ih =>
      have earlier := ih fun other member => errors other (List.mem_append_left _ member)
      have here := errors batch (List.mem_append_right _ (List.mem_singleton_self batch))
      have next := follows_batch earlier here
      have sameLimits : (ofBatch limits batches.flatten).limits = limits :=
        push_all_limits (ofLimits limits) batches.flatten
      rw [sameLimits] at next
      have single : ofBatch limits (batches ++ [batch]).flatten =
          (ofBatch limits batches.flatten).pushAll batch := by
        rw [List.flatten_append, List.flatten_singleton]
        exact push_all_append (ofLimits limits) batches.flatten batch
      rw [single, batches_snoc]
      exact next

end Queue

end NativeBinding
