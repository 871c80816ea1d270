import Mathlib.Data.List.Nodup
import NativeBinding.Proofs.Conversion.Steps
import NativeBinding.Proofs.Name.Interning
import NativeBinding.Session

/-!
# The builtin conversions in place

Loading the builtins registers each of their conversions together with its routine. No two of them
share a pair of types, so each pair resolves; and no two share a name, so each keeps its routine. A
cast that is checked then has a builtin conversion behind it, and runs its routine.
-/

set_option autoImplicit false

namespace NativeBinding

namespace Builtin

def Entry.pair (entry : Entry) : TypePair := ⟨entry.source, entry.target⟩

/-- The conversion of an entry, with a name for its routine. -/
def Entry.conversion (entry : Entry) (routine : Name) : Conversion :=
  ⟨entry.source, entry.target, entry.safe, routine⟩

/-- The cast is bound to the conversion of the entry, under a name that its routine is found by. -/
def Entry.Behind (entry : Entry) (routines : RoutineTable) (cast : Cast) : Prop :=
  ∃ name, cast.conversion = some (entry.conversion name) ∧
    routines.routines.find? name = some entry.routine

theorem convert_behind {entry : Entry} {routines : RoutineTable} {cast : Cast}
    (behind : entry.Behind routines cast) (heap : Heap) {operand : Value}
    (typed : operand.type = entry.source) :
    ∃ name, routines.convert heap cast operand =
      RoutineTable.results (entry.conversion name) (entry.routine heap operand) := by
  obtain ⟨name, bound, found⟩ := behind
  exact ⟨name, routines.convert_bound heap bound found typed⟩

theorem stringToInt_string (heap : Heap) (text : String) :
    stringToInt heap (.string text) =
      match Decimal.read? text with
      | some n => .ok (.int n)
      | none => .error ("'" ++ text ++ "' cannot be converted to int") := rfl

theorem texts_nodup : (conversions.map Entry.text).Nodup := by decide

theorem pairs_nodup : (conversions.map Entry.pair).Nodup := by decide

end Builtin

namespace Session

open Builtin (Entry)

/-- Registers entries under the names that their texts have. -/
def registerEntries (session : Session) (name : String → Name) (entries : List Entry) : Session :=
  entries.foldl
    (fun session entry =>
      (session.registerConversion (entry.conversion (name entry.text)) entry.routine).1)
    session

section

variable (name : String → Name) {entries : List Entry}

theorem routine_untouched (session : Session) {asked : Name}
    (elsewhere : ∀ entry ∈ entries, name entry.text ≠ asked) :
    (session.registerEntries name entries).routines.routines.find? asked =
      session.routines.routines.find? asked := by
  induction entries generalizing session with
  | nil => rfl
  | cons entry rest ih =>
      obtain ⟨first, others⟩ := List.forall_mem_cons.1 elsewhere
      refine (ih _ others).trans ?_
      refine (RoutineTable.find?_register ..).trans ?_
      exact if_neg (Ne.symm first)

theorem candidates_untouched (session : Session) {asked : TypePair}
    (elsewhere : ∀ entry ∈ entries, entry.pair ≠ asked) :
    (session.registerEntries name entries).conversions.candidates asked =
      session.conversions.candidates asked := by
  induction entries generalizing session with
  | nil => rfl
  | cons entry rest ih =>
      obtain ⟨first, others⟩ := List.forall_mem_cons.1 elsewhere
      refine (ih _ others).trans ?_
      refine (ConversionTable.candidates_register ..).trans ?_
      exact if_neg fun new => first new.1.symm

/-- What comes after an entry leaves its routine alone if no other has its name. -/
theorem routine_registered (session : Session) {before after : List Entry} {entry : Entry}
    (elsewhere : ∀ other ∈ after, name other.text ≠ name entry.text) :
    (session.registerEntries name (before ++ entry :: after)).routines.routines.find?
        (name entry.text) = some entry.routine := by
  unfold registerEntries
  rw [List.foldl_append, List.foldl_cons]
  refine (routine_untouched name _ elsewhere).trans ?_
  refine (RoutineTable.find?_register ..).trans ?_
  exact if_pos rfl

theorem candidates_registered (session : Session) {before after : List Entry} {entry : Entry}
    (nothing : session.conversions.candidates entry.pair = [])
    (earlier : ∀ other ∈ before, other.pair ≠ entry.pair)
    (later : ∀ other ∈ after, other.pair ≠ entry.pair) :
    (session.registerEntries name (before ++ entry :: after)).conversions.candidates entry.pair =
      [entry.conversion (name entry.text)] := by
  have first := (candidates_untouched name session earlier).trans nothing
  unfold registerEntries at first ⊢
  rw [List.foldl_append, List.foldl_cons]
  refine (candidates_untouched name _ later).trans ?_
  refine (ConversionTable.candidates_register ..).trans ?_
  rw [first]
  exact if_pos ⟨rfl, List.not_mem_nil⟩

end

theorem apart_of_nodup {κ : Type} (key : Entry → κ) {before after : List Entry} {entry : Entry}
    (nodup : ((before ++ entry :: after).map key).Nodup) :
    (∀ other ∈ before, key other ≠ key entry) ∧ ∀ other ∈ after, key other ≠ key entry := by
  rw [List.map_append, List.map_cons, List.nodup_append, List.nodup_cons] at nodup
  obtain ⟨-, ⟨notAfter, -⟩, apart⟩ := nodup
  constructor
  · intro other member
    exact apart _ (List.mem_map_of_mem member) _ List.mem_cons_self
  · intro other member same
    apply notAfter
    rw [← same]
    exact List.mem_map_of_mem member

/-- The pair of an entry has its conversion alone, and the name that it was registered under has its
routine. -/
structure Holds (session : Session) (entry : Entry) (routine : Name) : Prop where
  alone : session.conversions.candidates entry.pair = [entry.conversion routine]
  found : session.routines.routines.find? routine = some entry.routine

/-- With names and pairs of their own, entries are held after they have been registered. -/
theorem entry_held {session : Session} {name : String → Name} {entries : List Entry}
    (names : (entries.map fun entry => name entry.text).Nodup)
    (pairs : (entries.map Entry.pair).Nodup)
    (nothing : ∀ pair, session.conversions.candidates pair = []) {entry : Entry}
    (listed : entry ∈ entries) :
    (session.registerEntries name entries).Holds entry (name entry.text) := by
  obtain ⟨before, after, rfl⟩ := List.append_of_mem listed
  obtain ⟨-, laterNames⟩ := apart_of_nodup (fun entry => name entry.text) names
  obtain ⟨earlierPairs, laterPairs⟩ := apart_of_nodup Entry.pair pairs
  exact ⟨candidates_registered name session (nothing entry.pair) earlierPairs laterPairs,
    routine_registered name session laterNames⟩

/-- A cast for an entry that is held is bound to its conversion. -/
theorem checked_of_holds {session : Session} {entry : Entry} {routine : Name}
    (holds : session.Holds entry routine) {cast : Cast} (target : cast.target = entry.target) :
    session.conversions.bindCast cast entry.source =
      .ok (cast.bind (entry.conversion routine)) := by
  rw [ConversionTable.bindCast_eq_ok_iff, target]
  exact ⟨_, holds.alone, rfl⟩

/-- Registering natives changes the catalog and the natives, and nothing else. -/
theorem frame_registerNatives (session : Session) (bindings : List (Binding Context)) :
    ∃ catalog natives,
      bindings.foldl registerNative session = { session with catalog, natives } := by
  induction bindings generalizing session with
  | nil => exact ⟨_, _, rfl⟩
  | cons binding rest ih =>
      obtain ⟨catalog, natives, same⟩ := ih (session.registerNative binding)
      exact ⟨catalog, natives, same⟩

theorem names_registerEntries (session : Session) (name : String → Name) (entries : List Entry) :
    (session.registerEntries name entries).names = session.names := by
  unfold registerEntries
  induction entries generalizing session with
  | nil => rfl
  | cons entry rest ih => exact ih (session.registerConversion _ entry.routine).1

/-- The natives are registered before the conversions, and both under the names in the table. -/
theorem load_builtins_entries (session : Session) :
    ∃ (names : NameTable) (catalog : Catalog) (natives : NativeTable Context),
      names = session.names.internAll (Builtin.nativeNames ++ Builtin.conversionNames) ∧
        session.loadBuiltins =
          ({ session with names, catalog, natives } : Session).registerEntries
            (fun text => (names.name? text).getD .empty) Builtin.conversions := by
  unfold loadBuiltins
  dsimp only
  generalize interned : session.names.internAll
    (Builtin.nativeNames ++ Builtin.conversionNames) = names
  obtain ⟨catalog, natives, frame⟩ := frame_registerNatives { session with names }
    (Builtin.natives fun text => (names.name? text).getD .empty)
  rw [frame]
  exact ⟨names, catalog, natives, rfl, rfl⟩

/-- After loading, each builtin conversion is held under the name that its text has. -/
theorem builtin_held {session : Session} (exact : session.names.Exact)
    (nothing : session.conversions = .empty) {entry : Entry}
    (builtin : entry ∈ Builtin.conversions) :
    session.loadBuiltins.Holds entry
      ((session.loadBuiltins.names.name? entry.text).getD .empty) := by
  obtain ⟨names, catalog, natives, interned, loaded⟩ := load_builtins_entries session
  have spelled : ∀ other ∈ Builtin.conversions,
      names.text ((names.name? other.text).getD .empty) = other.text := by
    intro other member
    rw [interned]
    exact NameTable.text_named_internAll exact
      (List.mem_append_right _ (List.mem_map_of_mem member))
  have loadedNames : session.loadBuiltins.names = names := by
    rw [loaded, names_registerEntries]
  rw [loadedNames, loaded]
  apply entry_held _ Builtin.pairs_nodup _ builtin
  · -- Names that are spelled differently are different.
    apply List.Nodup.of_map names.text
    rw [List.map_map]
    have texts : Builtin.conversions.map
        (names.text ∘ fun entry => (names.name? entry.text).getD .empty) =
        Builtin.conversions.map Entry.text := List.map_congr_left spelled
    rw [texts]
    exact Builtin.texts_nodup
  · intro pair
    change session.conversions.candidates pair = []
    rw [nothing]
    rfl

theorem builtin_held_at_start {settings : Settings} (loads : settings.loadBuiltins = true)
    (sink : Sink) {entry : Entry} (builtin : entry ∈ Builtin.conversions) :
    (start settings sink).Holds entry
      (((start settings sink).names.name? entry.text).getD .empty) := by
  have started : start settings sink = (bare settings sink).loadBuiltins := if_pos loads
  rw [started]
  exact builtin_held NameTable.exact_fresh rfl builtin

/-- Whoever checks a cast for a builtin conversion at the start finds the builtin behind it. -/
theorem builtin_checked_at_start {settings : Settings} (loads : settings.loadBuiltins = true)
    (sink : Sink) {entry : Entry} (builtin : entry ∈ Builtin.conversions) {cast : Cast}
    (target : cast.target = entry.target) :
    ∃ bound, (start settings sink).conversions.bindCast cast entry.source = .ok bound ∧
      entry.Behind (start settings sink).routines bound := by
  have holds := builtin_held_at_start loads sink builtin
  exact ⟨_, checked_of_holds holds target, _, rfl, holds.found⟩

end Session

end NativeBinding
