import NativeBinding.Proofs.Conversion.Batch
import NativeBinding.Proofs.Diagnostic.Evidence

/-!
# The account of a batch

A site fails when the table does not hold exactly one conversion for its pair of types. That is a
matter of the table and the site alone, so neither what fails before a site nor any limit changes
what becomes of it. The failures are counted exactly; which of them are reported is up to the
limits, but what is reported is always a failure, at its place and under its code.
-/

set_option autoImplicit false

namespace NativeBinding

/-- Expressions start unbound and change by being bound. -/
inductive Cast.Made : Cast → Prop where
  | unbound (operand : ExprId) (target : ValueType) (span : Span) :
      Made (.unbound operand target span)
  | bind {cast : Cast} (earlier : Made cast) (conversion : Conversion) :
      Made (cast.bind conversion)

theorem Cast.no_slots_of_unbound {cast : Cast} (made : cast.Made)
    (unbound : cast.conversion = none) : cast.slots = [] := by
  cases made with
  | unbound operand target span => rfl
  | bind earlier conversion => cases unbound

namespace ConversionTable

/-- Not exactly one conversion is held for the site. -/
def Fails (table : ConversionTable) (site : Site) : Prop :=
  (table.candidates site.pair).length ≠ 1

instance (table : ConversionTable) (site : Site) : Decidable (table.Fails site) :=
  inferInstanceAs (Decidable (_ ≠ _))

/-- What becomes of a site in a check: only the conversion and the slots of its expression change,
and they become those of the one conversion that is held, or else nothing changes. -/
structure Accounted (table : ConversionTable) (site checked : Site) : Prop where
  source : checked.source = site.source
  operand : checked.cast.operand = site.cast.operand
  target : checked.cast.target = site.cast.target
  span : checked.cast.span = site.cast.span
  bound : ¬table.Fails site → ∃ conversion, table.candidates site.pair = [conversion] ∧
    checked.cast.conversion = some conversion ∧ checked.cast.slots = conversion.slots
  left : table.Fails site → checked.cast = site.cast
  unbound : table.Fails site → site.cast.Made → site.cast.conversion = none →
    checked.cast.conversion = none ∧ checked.cast.slots = []

/-- What a diagnostic says of a failing site. -/
structure Explains (table : ConversionTable) (diagnostic : Diagnostic) (site : Site) : Prop where
  fails : table.Fails site
  isError : diagnostic.isError
  place : diagnostic.primarySpan? = some site.cast.span
  missing : table.candidates site.pair = [] → diagnostic.code.text = "E2101"
  ambiguous : 2 ≤ (table.candidates site.pair).length → diagnostic.code.text = "E2102"

section

variable (table : ConversionTable)

theorem fails_iff_unresolved (site : Site) :
    table.Fails site ↔ ∃ error, table.resolve site.pair = .error error := by
  unfold Fails
  cases resolved : table.resolve site.pair with
  | ok conversion =>
      have only := (resolve_eq_ok_iff table site.pair conversion).1 resolved
      simp [only]
  | error error =>
      cases error with
      | missing =>
          have none := (resolve_eq_missing_iff table site.pair).1 resolved
          simp [none]
      | ambiguous count =>
          obtain ⟨length, several⟩ := (resolve_eq_ambiguous_iff table site.pair count).1 resolved
          rw [length]
          simp only [Except.error.injEq, exists_eq', iff_true]
          omega

theorem settle_accounted (site : Site) : table.Accounted site (table.settle site) := by
  have failure := table.fails_iff_unresolved site
  unfold settle
  cases resolved : table.resolve site.pair with
  | ok conversion =>
      have succeeds : ¬table.Fails site := by
        rw [failure, resolved]
        simp
      have only := (resolve_eq_ok_iff table site.pair conversion).1 resolved
      exact ⟨rfl, rfl, rfl, rfl, fun _ => ⟨conversion, only, rfl, rfl⟩, (absurd · succeeds),
        (absurd · succeeds)⟩
  | error error =>
      have fails : table.Fails site := failure.2 ⟨error, resolved⟩
      refine ⟨rfl, rfl, rfl, rfl, (absurd fails ·), fun _ => rfl, ?_⟩
      intro _ made unbound
      exact ⟨unbound, Cast.no_slots_of_unbound made unbound⟩

variable (spell : Spelling)

theorem diagnostic_place (span : Span) (pair : TypePair) (error : ConversionError) :
    (table.diagnostic spell span pair error).primarySpan? = some span := by
  unfold diagnostic alternatives
  cases error with
  | missing => cases table.targetsFrom pair.source <;> rfl
  | ambiguous count => rfl

theorem diagnostic_code (span : Span) (pair : TypePair) (error : ConversionError) :
    (table.diagnostic spell span pair error).code = error.code := by
  unfold diagnostic alternatives
  cases error with
  | missing => cases table.targetsFrom pair.source <;> rfl
  | ambiguous count => rfl

theorem complaint_iff_fails (site : Site) :
    (table.complaint? spell site).isSome ↔ table.Fails site := by
  rw [fails_iff_unresolved]
  unfold complaint?
  cases table.resolve site.pair <;> simp

theorem length_complaints (sites : List Site) :
    (table.complaints spell sites).length = sites.countP fun site => table.Fails site := by
  unfold complaints
  rw [List.length_filterMap_eq_countP]
  apply List.countP_congr
  intro site _
  rw [complaint_iff_fails, decide_eq_true_iff]

theorem complaint_explains {site : Site} {diagnostic : Diagnostic}
    (complaint : table.complaint? spell site = some diagnostic) :
    table.Explains diagnostic site := by
  have fails : table.Fails site := by
    rw [← table.complaint_iff_fails spell site, complaint]
    rfl
  unfold complaint? at complaint
  cases resolved : table.resolve site.pair with
  | ok conversion =>
      rw [resolved] at complaint
      cases complaint
  | error error =>
      rw [resolved] at complaint
      cases complaint
      refine ⟨fails, table.diagnostic_is_error spell _ _ error,
        table.diagnostic_place spell _ _ error, ?_, ?_⟩
      · intro none
        rw [diagnostic_code]
        rw [(resolve_eq_missing_iff table site.pair).2 none] at resolved
        cases resolved
        rfl
      · intro several
        rw [diagnostic_code]
        rw [(resolve_eq_ambiguous_iff table site.pair _).2 ⟨rfl, several⟩] at resolved
        cases resolved
        rfl

end

end ConversionTable

theorem Queue.reachable_batches (limits : Limits) (batches : List (List Diagnostic)) :
    (Queue.ofBatches limits batches).Reachable := by
  induction batches using List.reverseRecOn with
  | nil => exact .start limits
  | append_singleton batches batch ih =>
      rw [batches_snoc]
      exact ih.extend (reachable_push_all (.start limits) batch)

namespace Session

section

variable (session : Session) (units : List (List Site))

theorem units_accounted :
    List.Forall₂ (List.Forall₂ session.conversions.Accounted) units
      (session.checkConversions units).2 := by
  have settled : (session.checkConversions units).2 =
      units.map (List.map session.conversions.settle) :=
    check_units_settles session.conversions session.names.text session.settings.limits units
  rw [settled, List.forall₂_map_right_iff, List.forall₂_same]
  intro unit _
  rw [List.forall₂_map_right_iff, List.forall₂_same]
  intro site _
  exact session.conversions.settle_accounted site

theorem checked_queue :
    (session.checkConversions units).1 =
      Queue.ofBatches session.settings.limits
        (units.map (session.conversions.complaints session.names.text)) :=
  check_units_queue session.conversions session.names.text session.settings.limits units

/-- Joining loses no error that a unit has counted, so the count is that of a single pass. -/
theorem failures_counted :
    (session.checkConversions units).1.errors =
      units.flatten.countP fun site => session.conversions.Fails site := by
  have follows := units_follow_single_pass session.conversions session.names.text
    session.settings.limits units
  have single := Checker.check_all_queue session.conversions session.names.text
    (.ofLimits session.settings.limits) units.flatten
  have pushed := Queue.push_all_counts
    (session.conversions.complaints_are_errors session.names.text units.flatten)
    (.ofLimits session.settings.limits)
  have joined : (session.checkConversions units).1.errors =
      0 + (session.conversions.complaints session.names.text units.flatten).length := by
    apply follows.errors.trans
    rw [single]
    exact pushed
  rw [joined, Nat.zero_add, ConversionTable.length_complaints]

theorem checked_queue_sound : (session.checkConversions units).1.Sound := by
  rw [checked_queue]
  exact Queue.sound_reachable (Queue.reachable_batches _ _)

theorem kept_explained {diagnostic : Diagnostic}
    (kept : diagnostic ∈ (session.checkConversions units).1.kept) :
    ∃ site ∈ units.flatten, session.conversions.Explains diagnostic site := by
  rw [checked_queue] at kept
  obtain ⟨batch, isBatch, inBatch⟩ := List.mem_flatten.1 (Queue.mem_of_batches_kept kept)
  obtain ⟨unit, isUnit, rfl⟩ := List.mem_map.1 isBatch
  obtain ⟨site, inUnit, complaint⟩ := List.mem_filterMap.1 inBatch
  refine ⟨site, List.mem_flatten_of_mem isUnit inUnit, ?_⟩
  exact session.conversions.complaint_explains session.names.text complaint

theorem kept_within_limit (limited : 0 < session.settings.limits.errors) :
    (session.checkConversions units).1.kept.length ≤ session.settings.limits.errors := by
  have sameLimits : (session.checkConversions units).1.limits = session.settings.limits := by
    rw [checked_queue]
    exact Queue.batches_limits _ _
  have onlyErrors : (session.checkConversions units).1.keptErrors =
      (session.checkConversions units).1.kept.length := by
    apply List.countP_eq_length.2
    intro diagnostic kept
    obtain ⟨site, -, explains⟩ := session.kept_explained units kept
    exact explains.isError
  rw [← sameLimits] at limited
  rw [← onlyErrors, ← sameLimits]
  exact (session.checked_queue_sound units).limited limited

end

/-- Sites that do not fail get the only conversion of their pair, and the slots of this conversion;
the others stay as they were. The count is the number of failing sites, whatever the limits keep of
them; evidence stands for a failing site and has a diagnostic behind it; and every diagnostic tells
of a failing site, where it stands and whether its pair has no conversion or several. -/
theorem batch_accounting (session : Session) (units : List (List Site)) :
    let table := session.conversions
    let limits := session.settings.limits
    let queue := (session.checkConversions units).1
    List.Forall₂ (List.Forall₂ table.Accounted) units (session.checkConversions units).2 ∧
      queue.errors = units.flatten.countP (fun site => table.Fails site) ∧
      (queue.guarantee.isSome ↔ ∃ site ∈ units.flatten, table.Fails site) ∧
      ((∃ site ∈ units.flatten, table.Fails site) → queue.kept ≠ []) ∧
      (∀ diagnostic ∈ queue.kept, ∃ site ∈ units.flatten, table.Explains diagnostic site) ∧
      (0 < limits.errors → queue.kept.length ≤ limits.errors) := by
  intro table limits queue
  have counted : queue.errors = units.flatten.countP fun site => table.Fails site :=
    session.failures_counted units
  have someFails : 0 < queue.errors ↔ ∃ site ∈ units.flatten, table.Fails site := by
    rw [counted, List.countP_pos_iff]
    simp only [decide_eq_true_eq]
  refine ⟨session.units_accounted units, counted, (Queue.guarantee_iff queue).trans someFails, ?_,
    fun diagnostic kept => session.kept_explained units kept, session.kept_within_limit units⟩
  intro failing nothing
  have reported := Queue.reported_iff_kept (session.checked_queue_sound units)
  obtain ⟨diagnostic, kept, -⟩ := reported.1 (someFails.2 failing)
  exact List.ne_nil_of_mem kept nothing

/-- There is one way from JSON to numbers and there are two from fractions. Of the failures only one
is kept. -/
def twoWaysFromFloat : Session :=
  let fromJson := (ConversionTable.empty.register ⟨.json, .int, false, ⟨14⟩⟩).1
  let fromFloat := (fromJson.register ⟨.float, .int, true, ⟨15⟩⟩).1
  { bare { limits := ⟨1, true⟩ } .silent with
    conversions := (fromFloat.register ⟨.float, .int, false, ⟨16⟩⟩).1 }

/-- A site without a conversion stands before the good one, and an ambiguous one after it. -/
def goodAmongFailing : List (List Site) :=
  [[⟨.unbound ⟨0⟩ .xml ⟨0, 5⟩, .json⟩, ⟨.unbound ⟨1⟩ .int ⟨10, 15⟩, .json⟩],
    [⟨.unbound ⟨2⟩ .int ⟨20, 25⟩, .float⟩]]

theorem good_site_among_failing :
    let checked := twoWaysFromFloat.checkConversions goodAmongFailing
    let failing : Site := ⟨.unbound ⟨2⟩ .int ⟨20, 25⟩, .float⟩
    failing ∈ goodAmongFailing.flatten ∧ twoWaysFromFloat.conversions.Fails failing ∧
      checked.1.errors = 2 ∧ checked.1.guarantee.isSome ∧
      checked.1.kept ≠ [] ∧ checked.1.kept.length ≤ 1 ∧
      (∀ diagnostic ∈ checked.1.kept, diagnostic.isError) ∧
      (∃ good, checked.2.flatten[1]? = some good ∧ good.source = .json ∧
        good.cast.operand = ⟨1⟩ ∧
        good.cast.conversion = some ⟨.json, .int, false, ⟨14⟩⟩ ∧
        good.cast.slots = [⟨.int, .value⟩, ⟨.error, .error⟩]) ∧
      ∃ left, checked.2.flatten[2]? = some left ∧ left.cast.operand = ⟨2⟩ ∧
        left.cast.conversion = none ∧ left.cast.slots = [] := by
  intro checked failing
  have listed : failing ∈ goodAmongFailing.flatten := by decide
  have fails : twoWaysFromFloat.conversions.Fails failing := by decide
  obtain ⟨accounted, counted, evidence, kept, explained, limited⟩ :=
    batch_accounting twoWaysFromFloat goodAmongFailing
  have inOrder : List.Forall₂ twoWaysFromFloat.conversions.Accounted goodAmongFailing.flatten
      checked.2.flatten := List.rel_flatten accounted
  have three : checked.2.flatten.length = 3 := inOrder.length_eq.symm
  refine ⟨listed, fails, counted, evidence.2 ⟨failing, listed, fails⟩,
    kept ⟨failing, listed, fails⟩, limited (by decide), ?_, ?_, ?_⟩
  · intro diagnostic inQueue
    obtain ⟨site, -, explains⟩ := explained diagnostic inQueue
    exact explains.isError
  · have inBatch : 1 < checked.2.flatten.length := by omega
    have here := inOrder.get (by decide) inBatch
    obtain ⟨conversion, only, bound, slots⟩ := here.bound (by decide)
    have known : [conversion] = [⟨.json, .int, false, ⟨14⟩⟩] := only.symm
    cases known
    exact ⟨_, List.getElem?_eq_getElem inBatch, here.source, here.operand, bound, slots⟩
  · have inBatch : 2 < checked.2.flatten.length := by omega
    have here := inOrder.get (by decide) inBatch
    obtain ⟨unbound, noSlots⟩ := here.unbound (by decide) (.unbound ⟨2⟩ .int ⟨20, 25⟩) rfl
    exact ⟨_, List.getElem?_eq_getElem inBatch, here.operand, unbound, noSlots⟩

end Session

end NativeBinding
