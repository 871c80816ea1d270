import Mathlib.Logic.Equiv.Basic
import NativeBinding.Proofs.Renaming.Catalog
import NativeBinding.Proofs.Renaming.Conversion

/-!
# Answers do not depend on the indices of names

Names are indices in the order in which texts happened to arrive, and another host interns in
another order. What a checker is told is the same for both: the symbol or the conversion under the
new names, or the very diagnostic. Only the targets in the note on a missing conversion may stand
in another order, since types are listed by the indices of their names.
-/

set_option autoImplicit false

namespace NativeBinding

/-- Run the same steps on two pairs of tables, on the second with every name replaced, and let the
second spelling read each new name as the first reads the old. Then calls are answered with the
renamed symbol or an identical diagnostic, pairs of types with the renamed conversion or the same
error, and the diagnostic of a failed conversion is the same but for the order of the targets in
its note. -/
theorem answers_under_renaming (r : Name → Name) (injective : Function.Injective r)
    (spell respell : Spelling) (steps : List Catalog.Step)
    (conversionSteps : List ConversionTable.Step) (call : Call) (pair : TypePair) (span : Span)
    (respells : Respells r spell respell
      (steps.flatMap Catalog.Step.names ++ conversionSteps.flatMap ConversionTable.Step.names ++
        (call.names ++ pair.names))) :
    let catalog := Catalog.empty.run steps
    let renamedCatalog := Catalog.empty.run (steps.map (Catalog.Step.rename r))
    let table := ConversionTable.empty.run conversionSteps
    let renamedTable :=
      ConversionTable.empty.run (conversionSteps.map (ConversionTable.Step.rename r))
    renamedCatalog.checkCall respell span (call.rename r) =
      (catalog.checkCall spell span call).map (Symbol.rename r) ∧
    renamedTable.resolve (pair.rename r) = (table.resolve pair).map (Conversion.rename r) ∧
    ∀ error,
      { renamedTable.diagnostic respell span (pair.rename r) error with notes := [] } =
        { table.diagnostic spell span pair error with notes := [] } ∧
      ∃ targets renamedTargets : List String, renamedTargets.Perm targets ∧
        targets = (table.targetsFrom pair.source).map (ValueType.text spell) ∧
        (table.diagnostic spell span pair error).notes =
          error.notes (pair.source.text spell) targets ∧
        (renamedTable.diagnostic respell span (pair.rename r) error).notes =
          error.notes (pair.source.text spell) renamedTargets := by
  intro catalog renamedCatalog table renamedTable
  obtain ⟨inTables, inQuestions⟩ := respells_append.1 respells
  obtain ⟨declared, registered⟩ := respells_append.1 inTables
  obtain ⟨called, converted⟩ := respells_append.1 inQuestions
  have catalogs : Catalog.Renamed r catalog renamedCatalog :=
    Catalog.renamed_run injective Catalog.filed_empty Catalog.filed_empty Catalog.renamed_empty
      steps
  have tables : ConversionTable.Renamed r table renamedTable :=
    ConversionTable.renamed_run injective ConversionTable.renamed_empty conversionSteps
  have held : ∀ declaration, catalog.Holds declaration →
      Respells r spell respell declaration.signature.names := by
    intro declaration holds name mentioned
    rcases Catalog.names_held Catalog.filed_empty holds with used | ⟨_, _, nothing, -⟩
    · apply declared name
      exact used (List.mem_append_left _ (List.mem_append_left _ mentioned))
    · cases nothing
  have listed : ∀ target ∈ table.targetsFrom pair.source, Respells r spell respell target.names :=
    fun target there name mentioned =>
      registered name (ConversionTable.names_listed there mentioned)
  have source : (pair.source.rename r).text respell = pair.source.text spell :=
    ValueType.text_rename (respells_append.1 converted).1
  refine ⟨Catalog.check_rename catalogs span called held,
    ConversionTable.resolve_rename tables pair, ?_⟩
  intro error
  refine ⟨table.diagnostic_rename renamedTable span error converted, _,
    (renamedTable.targetsFrom (pair.source.rename r)).map (ValueType.text respell),
    ConversionTable.target_texts_rename injective tables listed, rfl,
    table.diagnostic_notes spell span pair error, ?_⟩
  rw [ConversionTable.diagnostic_notes, ← source]
  rfl

/-- Two hosts that met the texts `a` and `b` in another order. -/
def hostNames : NameTable := NameTable.fresh.internAll ["a", "b", "t"]

def otherHostNames : NameTable := NameTable.fresh.internAll ["b", "a", "t"]

def exchange : Name → Name := Equiv.swap ⟨14⟩ ⟨15⟩

/-- Of a type `t` in each of two packages. -/
def toBoth : List ConversionTable.Step :=
  [.register ⟨.json, .struct ⟨⟨14⟩, ⟨16⟩⟩, false, ⟨14⟩⟩,
    .register ⟨.json, .struct ⟨⟨15⟩, ⟨16⟩⟩, false, ⟨15⟩⟩]

def onlyInt : Declaration := (Declaration.function ⟨14⟩ ⟨16⟩).taking [.int]

def mistypedCall : Call := ⟨⟨14⟩, ⟨none, ⟨16⟩⟩, [.struct ⟨⟨15⟩, ⟨16⟩⟩]⟩

theorem hosts_answer_alike :
    Function.Injective exchange ∧
    Respells exchange hostNames.text otherHostNames.text
      ([Catalog.Step.register onlyInt].flatMap Catalog.Step.names ++
        toBoth.flatMap ConversionTable.Step.names ++
        (mistypedCall.names ++ TypePair.names ⟨.json, .int⟩)) ∧
    (Catalog.empty.run ([.register onlyInt].map (Catalog.Step.rename exchange))).checkCall
        otherHostNames.text ⟨0, 1⟩ (mistypedCall.rename exchange) =
      ((Catalog.empty.run [.register onlyInt]).checkCall hostNames.text ⟨0, 1⟩ mistypedCall).map
        (Symbol.rename exchange) ∧
    ((ConversionTable.empty.run toBoth).diagnostic hostNames.text ⟨0, 1⟩ ⟨.json, .int⟩
      .missing).notes = ["`json` converts to `a:t`, `b:t`"] ∧
    ((ConversionTable.empty.run (toBoth.map (ConversionTable.Step.rename exchange))).diagnostic
      otherHostNames.text ⟨0, 1⟩ ⟨.json, .int⟩ .missing).notes =
        ["`json` converts to `b:t`, `a:t`"] := by
  have injective : Function.Injective exchange := (Equiv.swap _ _).injective
  have respells : Respells exchange hostNames.text otherHostNames.text
      ([Catalog.Step.register onlyInt].flatMap Catalog.Step.names ++
        toBoth.flatMap ConversionTable.Step.names ++
        (mistypedCall.names ++ TypePair.names ⟨.json, .int⟩)) := by
    decide +kernel
  obtain ⟨checked, -, -⟩ := answers_under_renaming exchange injective hostNames.text
    otherHostNames.text [.register onlyInt] toBoth mistypedCall ⟨.json, .int⟩ ⟨0, 1⟩ respells
  refine ⟨injective, respells, checked, ?_, ?_⟩
  · decide +kernel
  · decide +kernel

end NativeBinding
