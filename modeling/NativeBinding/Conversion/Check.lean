import NativeBinding.Conversion.Cast
import NativeBinding.Conversion.Table
import NativeBinding.Diagnostic.Queue

/-!
# Checking conversion expressions

Checking a cast resolves the pair of its operand's type and its target and binds the conversion
found. A cast that fails is reported, stays as it was, and does not keep the next one from being
checked. Units are checked each on its own queue, and the queues are joined in unit order.
-/

set_option autoImplicit false

namespace NativeBinding

def ConversionError.code : ConversionError → Code
  | .missing => .noConversion
  | .ambiguous _ => .ambiguousConversion

namespace ConversionTable

def bindCast (table : ConversionTable) (cast : Cast) (source : ValueType) :
    Except ConversionError Cast :=
  (table.resolve ⟨source, cast.target⟩).map cast.bind

theorem bindCast_eq_ok_iff (table : ConversionTable) (cast bound : Cast) (source : ValueType) :
    table.bindCast cast source = .ok bound ↔
      ∃ conversion, table.candidates ⟨source, cast.target⟩ = [conversion] ∧
        bound = cast.bind conversion := by
  unfold bindCast
  cases resolved : table.resolve ⟨source, cast.target⟩ with
  | error error =>
      constructor
      · intro impossible
        cases impossible
      · rintro ⟨conversion, only, -⟩
        rw [(resolve_eq_ok_iff table _ conversion).2 only] at resolved
        cases resolved
  | ok conversion =>
      have only := (resolve_eq_ok_iff table _ conversion).1 resolved
      constructor
      · intro same
        cases same
        exact ⟨conversion, only, rfl⟩
      · rintro ⟨other, otherOnly, rfl⟩
        rw [only] at otherOnly
        cases otherOnly
        rfl

/-- Names the conversions that would have worked, if there are any. -/
def alternatives (table : ConversionTable) (spell : Spelling) (source : ValueType) :
    List Decoration :=
  match table.targetsFrom source with
  | [] => []
  | targets =>
      [.note ("`" ++ source.text spell ++ "` converts to " ++
        ", ".intercalate (targets.map fun target => "`" ++ target.text spell ++ "`"))]

def diagnostic (table : ConversionTable) (spell : Spelling) (span : Span) (pair : TypePair)
    (error : ConversionError) : Diagnostic :=
  let source := pair.source.text spell
  let target := pair.target.text spell
  (Diagnostic.error error.code).decorateAll <|
    match error with
    | .missing =>
        [.message ("no conversion from `" ++ source ++ "` to `" ++ target ++ "`"),
          .label span ("cannot convert to `" ++ target ++ "`")] ++
          table.alternatives spell pair.source
    | .ambiguous candidates =>
        [.message ("ambiguous conversion from `" ++ source ++ "` to `" ++ target ++ "`"),
          .label span (Nat.repr candidates ++ " operators match"),
          .note "exactly one operator may be registered per type pair"]

end ConversionTable

/-- A cast with the type of its operand. -/
structure Site where
  cast : Cast
  source : ValueType
  deriving DecidableEq, Repr

def Site.pair (site : Site) : TypePair := ⟨site.source, site.cast.target⟩

/-- What a run over several casts has collected. -/
structure Checker where
  queue : Queue
  resolved : Nat
  deriving DecidableEq

namespace Checker

def ofLimits (limits : Limits) : Checker := ⟨.ofLimits limits, 0⟩

structure Outcome where
  checker : Checker
  site : Site
  reported : Option Reported

def check (checker : Checker) (table : ConversionTable) (spell : Spelling) (site : Site) :
    Outcome :=
  match table.bindCast site.cast site.source with
  | .ok cast => ⟨{ checker with resolved := checker.resolved + 1 }, { site with cast }, none⟩
  | .error error =>
      let (queue, reported) :=
        checker.queue.push (table.diagnostic spell site.cast.span site.pair error)
      ⟨{ checker with queue }, site, reported⟩

/-- Checks sites in order and keeps them in order. -/
def checkAll (checker : Checker) (table : ConversionTable) (spell : Spelling) :
    List Site → Checker × List Site
  | [] => (checker, [])
  | site :: rest =>
      let outcome := checker.check table spell site
      let (last, sites) := outcome.checker.checkAll table spell rest
      (last, outcome.site :: sites)

end Checker

namespace ConversionTable

/-- Every unit has a queue of its own, so one unit's limit does not silence another. -/
def checkUnits (table : ConversionTable) (spell : Spelling) (limits : Limits)
    (units : List (List Site)) : Queue × List (List Site) :=
  let checked := units.map ((Checker.ofLimits limits).checkAll table spell)
  ((checked.map fun unit => unit.1.queue).foldl Queue.extend (.ofLimits limits),
    checked.map (·.2))

end ConversionTable

end NativeBinding
