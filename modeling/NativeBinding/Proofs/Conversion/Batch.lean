import NativeBinding.Proofs.Diagnostic.Joining
import NativeBinding.Session

/-!
# Checking units apart and together

Whether a site is bound and what is reported for it depends on the table and the site alone. So a
pass over several units, each with a checker of its own, binds what one checker over all sites
binds, and the two queues differ only by what joining does.
-/

set_option autoImplicit false

namespace NativeBinding

theorem severity_decorate_all (diagnostic : Diagnostic) (decorations : List Decoration) :
    (diagnostic.decorateAll decorations).severity = diagnostic.severity := by
  unfold Diagnostic.decorateAll
  induction decorations generalizing diagnostic with
  | nil => rfl
  | cons decoration rest ih =>
      rw [List.foldl_cons, ih]
      cases decoration <;> rfl

namespace ConversionTable

def settle (table : ConversionTable) (site : Site) : Site :=
  match table.resolve site.pair with
  | .ok conversion => { site with cast := site.cast.bind conversion }
  | .error _ => site

/-- What is reported for a site whose pair of types does not resolve. -/
def complaint? (table : ConversionTable) (spell : Spelling) (site : Site) : Option Diagnostic :=
  match table.resolve site.pair with
  | .ok _ => none
  | .error error => some (table.diagnostic spell site.cast.span site.pair error)

def complaints (table : ConversionTable) (spell : Spelling) (sites : List Site) :
    List Diagnostic :=
  sites.filterMap (table.complaint? spell)

theorem settle_bound {table : ConversionTable} {site : Site} {bound : Cast}
    (success : table.bindCast site.cast site.source = .ok bound) :
    table.settle site = { site with cast := bound } := by
  obtain ⟨conversion, only, rfl⟩ := (bindCast_eq_ok_iff table site.cast bound site.source).1 success
  have resolved : table.resolve site.pair = .ok conversion :=
    (resolve_eq_ok_iff table site.pair conversion).2 only
  unfold settle
  rw [resolved]

theorem diagnostic_is_error (table : ConversionTable) (spell : Spelling) (span : Span)
    (pair : TypePair) (error : ConversionError) :
    (table.diagnostic spell span pair error).isError := by
  unfold Diagnostic.isError ConversionTable.diagnostic
  rw [severity_decorate_all]
  rfl

theorem complaints_are_errors (table : ConversionTable) (spell : Spelling) (sites : List Site) :
    ∀ diagnostic ∈ table.complaints spell sites, diagnostic.isError := by
  intro diagnostic reported
  obtain ⟨site, -, complaint⟩ := List.mem_filterMap.1 reported
  unfold complaint? at complaint
  cases resolved : table.resolve site.pair with
  | ok conversion =>
      rw [resolved] at complaint
      cases complaint
  | error error =>
      rw [resolved] at complaint
      cases complaint
      exact table.diagnostic_is_error spell site.cast.span site.pair error

end ConversionTable

namespace Checker

variable (table : ConversionTable) (spell : Spelling)

theorem check_settles (checker : Checker) (site : Site) :
    (checker.check table spell site).site = table.settle site := by
  unfold check ConversionTable.bindCast ConversionTable.settle Site.pair
  cases table.resolve ⟨site.source, site.cast.target⟩ <;> rfl

theorem check_queue (checker : Checker) (site : Site) :
    (checker.check table spell site).checker.queue =
      checker.queue.pushAll (table.complaint? spell site).toList := by
  unfold check ConversionTable.bindCast ConversionTable.complaint? Site.pair
  cases table.resolve ⟨site.source, site.cast.target⟩ <;> rfl

/-- A checker is silent about a site exactly when it has bound it. -/
theorem check_silent_iff (checker : Checker) (site : Site) :
    (checker.check table spell site).reported = none ↔
      ∃ bound, table.bindCast site.cast site.source = .ok bound := by
  unfold check
  cases table.bindCast site.cast site.source with
  | ok bound => simp
  | error error =>
      have isError := table.diagnostic_is_error spell site.cast.span site.pair error
      simp [Queue.push, isError]

theorem check_all_settles (checker : Checker) (sites : List Site) :
    (checker.checkAll table spell sites).2 = sites.map table.settle := by
  induction sites generalizing checker with
  | nil => rfl
  | cons site rest ih =>
      rw [List.map_cons, ← ih (checker.check table spell site).checker,
        ← check_settles table spell checker site]
      rfl

theorem check_all_queue (checker : Checker) (sites : List Site) :
    (checker.checkAll table spell sites).1.queue =
      checker.queue.pushAll (table.complaints spell sites) := by
  induction sites generalizing checker with
  | nil => rfl
  | cons site rest ih =>
      have later := ih (checker.check table spell site).checker
      rw [check_queue, ← Queue.push_all_append] at later
      have all : table.complaints spell (site :: rest) =
          (table.complaint? spell site).toList ++ table.complaints spell rest := by
        unfold ConversionTable.complaints
        rw [List.filterMap_cons]
        cases table.complaint? spell site <;> rfl
      rw [all]
      exact later

end Checker

theorem check_units_settles (table : ConversionTable) (spell : Spelling) (limits : Limits)
    (units : List (List Site)) :
    (table.checkUnits spell limits units).2 = units.map (List.map table.settle) := by
  unfold ConversionTable.checkUnits
  dsimp only
  rw [List.map_map]
  apply List.map_congr_left
  intro unit _
  exact Checker.check_all_settles table spell (.ofLimits limits) unit

theorem check_units_queue (table : ConversionTable) (spell : Spelling) (limits : Limits)
    (units : List (List Site)) :
    (table.checkUnits spell limits units).1 =
      Queue.ofBatches limits (units.map (table.complaints spell)) := by
  unfold ConversionTable.checkUnits Queue.ofBatches
  dsimp only
  rw [List.map_map, List.map_map]
  congr 1
  apply List.map_congr_left
  intro unit _
  exact Checker.check_all_queue table spell (.ofLimits limits) unit

theorem single_pass_queue (table : ConversionTable) (spell : Spelling) (limits : Limits)
    (units : List (List Site)) :
    ((Checker.ofLimits limits).checkAll table spell units.flatten).1.queue =
      Queue.ofBatch limits (units.map (table.complaints spell)).flatten := by
  have pushed := Checker.check_all_queue table spell (.ofLimits limits) units.flatten
  unfold ConversionTable.complaints at pushed
  rw [List.filterMap_flatten] at pushed
  exact pushed

theorem units_follow_single_pass (table : ConversionTable) (spell : Spelling) (limits : Limits)
    (units : List (List Site)) :
    Queue.Follows ((Checker.ofLimits limits).checkAll table spell units.flatten).1.queue
      (table.checkUnits spell limits units).1 := by
  rw [single_pass_queue, check_units_queue]
  apply Queue.follows_batches
  intro batch member
  obtain ⟨unit, -, rfl⟩ := List.mem_map.1 member
  exact table.complaints_are_errors spell unit

/-- Checking units apart binds what one checker over all their sites binds and counts the same
errors. The joined queue starts with what that checker keeps, and where duplicates stay or nothing
limits the errors it keeps nothing else. -/
theorem joined_units_extend_single_pass (session : Session) (units : List (List Site)) :
    let limits := session.settings.limits
    let joined := session.checkConversions units
    let single := (Checker.ofLimits limits).checkAll session.conversions session.names.text
      units.flatten
    joined.2.flatten = single.2 ∧
      joined.1.errors = single.1.queue.errors ∧
      single.1.queue.kept <+: joined.1.kept ∧
      (limits.dropDuplicates = false ∨ limits.errors = 0 →
        joined.1.kept = single.1.queue.kept) := by
  intro limits joined single
  have follows : Queue.Follows single.1.queue joined.1 :=
    units_follow_single_pass session.conversions session.names.text limits units
  have sameLimits : single.1.queue.limits = limits := by
    have collected := single_pass_queue session.conversions session.names.text limits units
    rw [collected]
    exact Queue.push_all_limits (.ofLimits limits) _
  refine ⟨?_, follows.errors, Queue.follows_prefix follows, ?_⟩
  · have apart : joined.2 = units.map (List.map session.conversions.settle) :=
      check_units_settles session.conversions session.names.text limits units
    have together := Checker.check_all_settles session.conversions session.names.text
      (.ofLimits limits) units.flatten
    rw [apart]
    exact List.map_flatten.symm.trans together.symm
  · intro plain
    rw [← sameLimits] at plain
    exact Queue.follows_same follows plain

/-- A site that no conversion resolves in a session without conversions. -/
def unconvertible (target : ValueType) : Site := ⟨.unbound ⟨0⟩ target .dummy, .xml⟩

/-- The second unit reports one error twice before it reports another. -/
def repeatingUnits : List (List Site) :=
  [[unconvertible .int], [unconvertible .map, unconvertible .map, unconvertible .blob]]

theorem unlimited_units_keep_single_pass :
    let session := Session.bare { limits := ⟨0, true⟩ } .silent
    let single := (Checker.ofLimits ⟨0, true⟩).checkAll .empty NameTable.fresh.text
      repeatingUnits.flatten
    session.settings.limits.errors = 0 ∧
      (session.checkConversions repeatingUnits).1.kept = single.1.queue.kept ∧
      single.1.queue.kept.length = 3 := by
  intro session single
  have extend := joined_units_extend_single_pass session repeatingUnits
  exact ⟨rfl, extend.2.2.2 (.inr rfl), by decide +kernel⟩

/-- With room for three errors the single pass spends one place on the repeated error. -/
example :
    let session := Session.bare { limits := ⟨3, true⟩ } .silent
    let site (target : ValueType) : Site := ⟨.unbound ⟨0⟩ target .dummy, .xml⟩
    let units := [[site .int], [site .map, site .map, site .blob]]
    let single := (Checker.ofLimits ⟨3, true⟩).checkAll .empty NameTable.fresh.text units.flatten
    (session.checkConversions units).1.kept.length = 3 ∧ single.1.queue.kept.length = 2 := by
  decide +kernel

end NativeBinding
