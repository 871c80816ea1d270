import NativeBinding.Proofs.Host.Dispatch

/-!
# When an implementation runs

A log goes along with the state, and every implementation of a table is wrapped so that it writes
down what it is run on. Apart from the log nothing changes, so the log tells which calls get through
to an implementation: those with conforming arguments, each once and on just these arguments. What
the checks before and after such a run find is a wrong number of values or the first one out of
place.
-/

set_option autoImplicit false

namespace NativeBinding

namespace OrderedMap

variable {κ β γ : Type} [Ord κ]

/-- Puts another value under each key. -/
def mapValues (map : OrderedMap κ β) (change : κ → β → γ) : OrderedMap κ γ :=
  ⟨map.entries.map fun entry => (entry.1, change entry.1 entry.2), by
    unfold Entries.Ascending
    rw [List.pairwise_map]
    exact map.ascending⟩

theorem find?_mapValues [DecidableEq κ] (map : OrderedMap κ β) (change : κ → β → γ) (key : κ) :
    (map.mapValues change).find? key = (map.find? key).map (change key) := by
  obtain ⟨entries, ascending⟩ := map
  unfold mapValues find?
  dsimp only
  clear ascending
  induction entries with
  | nil => rfl
  | cons entry rest ih =>
      obtain ⟨other, value⟩ := entry
      rw [List.map_cons, Entries.find?, Entries.find?]
      by_cases same : key = other
      · subst same
        rw [if_pos rfl, if_pos rfl]
        rfl
      · rw [if_neg same, if_neg same]
        exact ih

end OrderedMap

/-- A run of the implementation that is bound under a signature. -/
structure Run where
  signature : Signature
  args : List Value

/-- The error says what is wrong with the values: their number, or else the first one that stands
where it may not. -/
def Faults (types : List ValueType) (values : List Value) (count : Nat → Nat → DispatchError)
    (mistype : Nat → ValueType → ValueType → DispatchError) (error : DispatchError) : Prop :=
  (values.length ≠ types.length ∧ error = count types.length values.length) ∨
    (values.length = types.length ∧
      ∃ misfit value, Misfit.Located misfit 0 types values misfit.index value ∧
        error = mistype misfit.index misfit.expected misfit.found)

namespace NativeTable

variable {σ : Type} (table : NativeTable σ) (state : σ) (log : List Run) (signature : Signature)
  (args : List Value)

/-- The same implementations, each adding its run to the log. -/
def recording : NativeTable (σ × List Run) :=
  ⟨table.bindings.mapValues fun signature binding =>
    ⟨binding.declaration, fun recorded args =>
      let (after, results) := binding.native recorded.1 args
      ((after, recorded.2 ++ [⟨signature, args⟩]), results)⟩⟩

/-- What a call adds to the log. -/
def runs : List Run :=
  match table.bindings.find? signature with
  | none => []
  | some binding =>
      if (refuse? binding.declaration args).isNone then [⟨signature, args⟩] else []

/-- Recording is faithful: state and answer are those of the table itself. -/
theorem invoke_recording :
    table.recording.invoke (state, log) signature args =
      (((table.invoke state signature args).1, log ++ table.runs signature args),
        (table.invoke state signature args).2) := by
  unfold invoke recording runs
  rw [OrderedMap.find?_mapValues]
  cases table.bindings.find? signature with
  | none => simp
  | some binding =>
      dsimp only [Option.map_some]
      cases refusal : refuse? binding.declaration args with
      | some error => simp
      | none =>
          dsimp only
          cases reject? binding.declaration (binding.native state args).2 <;> rfl

theorem runs_iff :
    table.runs signature args = [⟨signature, args⟩] ↔
      ∃ binding, table.bindings.find? signature = some binding ∧
        Conform binding.declaration.argTypes args := by
  unfold runs
  cases table.bindings.find? signature with
  | none => simp
  | some binding => simp [← refuse_none]

theorem runs_register (declaration : Declaration) (native : Native σ) :
    (table.register declaration native).1.runs signature args =
      if signature = declaration.signature then
        if (refuse? declaration args).isNone then [⟨signature, args⟩] else []
      else table.runs signature args := by
  unfold runs register
  rw [OrderedMap.find?_insert]
  by_cases same : signature = declaration.signature
  · rw [if_pos same, if_pos same]
  · rw [if_neg same, if_neg same]

theorem runs_at_most_once :
    table.runs signature args = [] ∨ table.runs signature args = [⟨signature, args⟩] := by
  unfold runs
  cases table.bindings.find? signature with
  | none => exact .inl rfl
  | some binding =>
      dsimp only
      cases refuse? binding.declaration args with
      | none => exact .inr rfl
      | some error => exact .inl rfl

theorem run_of_grown (grown : (table.recording.invoke (state, log) signature args).1.2 ≠ log) :
    (table.recording.invoke (state, log) signature args).1.2 = log ++ [⟨signature, args⟩] ∧
      ∃ binding, table.bindings.find? signature = some binding ∧
        Conform binding.declaration.argTypes args := by
  rw [invoke_recording] at grown ⊢
  dsimp only at grown ⊢
  rcases table.runs_at_most_once signature args with idle | one
  · rw [idle, List.append_nil] at grown
    exact absurd rfl grown
  · rw [one]
    exact ⟨rfl, (table.runs_iff signature args).1 one⟩

theorem no_run_iff :
    table.runs signature args = [] ↔
      ∀ binding, table.bindings.find? signature = some binding →
        ¬Conform binding.declaration.argTypes args := by
  have ran := table.runs_iff signature args
  constructor
  · intro idle binding bound conform
    rw [idle] at ran
    cases ran.2 ⟨binding, bound, conform⟩
  · intro refused
    refine (table.runs_at_most_once signature args).resolve_right ?_
    intro one
    obtain ⟨binding, bound, conform⟩ := ran.1 one
    exact refused binding bound conform

theorem call_without_run (idle : table.runs signature args = []) :
    (table.invoke state signature args).1 = state ∧
      ((table.bindings.find? signature = none ∧
          (table.invoke state signature args).2 = .error .unknownNative) ∨
        ∃ binding error, table.bindings.find? signature = some binding ∧
          Faults binding.declaration.argTypes args .argumentCount .argumentType error ∧
          (table.invoke state signature args).2 = .error error) := by
  have refused := (table.no_run_iff signature args).1 idle
  have called := table.invoke_called state signature args
  generalize table.invoke state signature args = ended at called
  cases called with
  | unbound absent => exact ⟨rfl, .inl ⟨absent, rfl⟩⟩
  | refused binding error bound because =>
      exact ⟨rfl, .inr ⟨binding, error, bound, refused_because because, rfl⟩⟩
  | rejected binding error bound conform because => exact absurd conform (refused binding bound)
  | answered binding bound conform answer => exact absurd conform (refused binding bound)

theorem call_with_run {binding : Binding σ} (bound : table.bindings.find? signature = some binding)
    (conform : Conform binding.declaration.argTypes args) :
    (table.invoke state signature args).1 = (binding.native state args).1 ∧
      (∀ answer, (table.invoke state signature args).2 = .ok answer ↔
        answer = (binding.native state args).2 ∧
          Conform binding.declaration.returns (binding.native state args).2) ∧
      ∀ error, (table.invoke state signature args).2 = .error error →
        Faults binding.declaration.returns (binding.native state args).2 .resultCount .resultType
          error := by
  have called := table.invoke_called state signature args
  generalize table.invoke state signature args = ended at called
  cases called with
  | unbound absent =>
      rw [bound] at absent
      cases absent
  | refused other error otherBound because =>
      rw [bound] at otherBound
      cases otherBound
      rw [refuse_none.2 conform] at because
      cases because
  | rejected other error otherBound otherConform because =>
      rw [bound] at otherBound
      cases otherBound
      refine ⟨rfl, ?_, ?_⟩
      · intro answer
        refine ⟨nofun, ?_⟩
        rintro ⟨-, conformed⟩
        rw [reject_none.2 conformed] at because
        cases because
      · intro reported same
        cases same
        exact rejected_because because
  | answered other otherBound otherConform conformed =>
      rw [bound] at otherBound
      cases otherBound
      refine ⟨rfl, ?_, nofun⟩
      intro answer
      rw [Except.ok.injEq, eq_comm]
      exact (and_iff_left conformed).symm

end NativeTable

/-- Whatever is bound and in whatever state: a call runs the implementation under its signature, on
exactly its own arguments and once, if there is one and the arguments conform, receiver first; else
it runs none. Without a run the state stays and the error says, in this order, that nothing is
bound, that the number of arguments is wrong, or which is the first out of place. After a run the
results are answered as they are exactly if they conform, and the error says what is wrong with
them. -/
theorem one_run_between_checks {σ : Type} (table : NativeTable σ) (state : σ) (log : List Run)
    (signature : Signature) (args : List Value) :
    let called := table.invoke state signature args
    let recorded := table.recording.invoke (state, log) signature args
    (recorded.1.1, recorded.2) = called ∧
      (recorded.1.2 = log ∨ recorded.1.2 = log ++ [⟨signature, args⟩]) ∧
      (recorded.1.2 = log ++ [⟨signature, args⟩] ↔
        ∃ binding, table.bindings.find? signature = some binding ∧
          Conform binding.declaration.argTypes args) ∧
      (recorded.1.2 = log →
        called.1 = state ∧
          ((table.bindings.find? signature = none ∧ called.2 = .error .unknownNative) ∨
            ∃ binding error, table.bindings.find? signature = some binding ∧
              Faults binding.declaration.argTypes args .argumentCount .argumentType error ∧
              called.2 = .error error)) ∧
      ∀ binding, table.bindings.find? signature = some binding → recorded.1.2 ≠ log →
        let (after, results) := binding.native state args
        called.1 = after ∧
          (∀ answer, called.2 = .ok answer ↔
            answer = results ∧ Conform binding.declaration.returns results) ∧
          ∀ error, called.2 = .error error →
            Faults binding.declaration.returns results .resultCount .resultType error := by
  intro called recorded
  have faithful : recorded = ((called.1, log ++ table.runs signature args), called.2) :=
    table.invoke_recording state log signature args
  have kept : recorded.1.2 = log ↔ table.runs signature args = [] := by
    rw [faithful]
    exact List.append_right_eq_self
  have added : recorded.1.2 = log ++ [⟨signature, args⟩] ↔
      table.runs signature args = [⟨signature, args⟩] := by
    rw [faithful]
    exact List.append_right_inj log
  refine ⟨?_, ?_, ?_, ?_, ?_⟩
  · rw [faithful]
  · rw [kept, added]
    exact table.runs_at_most_once signature args
  · rw [added]
    exact table.runs_iff signature args
  · rw [kept]
    exact table.call_without_run state signature args
  · intro binding bound grown
    have one := (table.runs_at_most_once signature args).resolve_left (mt kept.2 grown)
    obtain ⟨other, otherBound, conform⟩ := (table.runs_iff signature args).1 one
    rw [bound] at otherBound
    cases otherBound
    exact table.call_with_run state signature args bound conform

/-- Attached to a struct, takes a number and answers a text or an error. -/
def countedGet : Declaration :=
  (Declaration.function ⟨14⟩ ⟨15⟩).buildAll
    [.attachedTo ⟨⟨14⟩, ⟨16⟩⟩, .param .int, .returning .string, .fallible]

/-- The state counts the runs; from the second on there is no text any more. -/
def countedTable : NativeTable Nat :=
  (NativeTable.empty.register countedGet fun count _ =>
    (count + 1, [if count = 0 then .string "first" else .nil, .nil])).1

theorem counted_get_runs_once :
    let signature := countedGet.signature
    let receiver : Value := .struct ⟨0, ⟨⟨14⟩, ⟨16⟩⟩⟩
    (countedTable.recording.invoke (0, []) signature [receiver, .int 7]).1.2 =
        [⟨signature, [receiver, .int 7]⟩] ∧
      (countedTable.invoke 0 signature [receiver, .int 7]).2 = .ok [.string "first", .nil] ∧
      (countedTable.invoke 0 signature [receiver, .string "7"]).1 = 0 ∧
      Faults countedGet.argTypes [receiver, .string "7"] .argumentCount .argumentType
        (.argumentType 1 .int .string) ∧
      Faults countedGet.returns [.nil, .nil] .resultCount .resultType
        (.resultType 0 .string .nil) := by
  intro signature receiver
  have conform : Conform countedGet.argTypes [receiver, .int 7] := .cons rfl (.cons rfl .nil)
  have conformed : Conform countedGet.returns [.string "first", .nil] := .cons rfl (.cons rfl .nil)
  obtain ⟨-, -, ran, -, first⟩ :=
    one_run_between_checks countedTable 0 [] signature [receiver, .int 7]
  obtain ⟨-, -, -, refused, -⟩ :=
    one_run_between_checks countedTable 0 [] signature [receiver, .string "7"]
  obtain ⟨-, -, -, -, second⟩ :=
    one_run_between_checks countedTable 1 [] signature [receiver, .int 7]
  have logged := ran.2 ⟨_, rfl, conform⟩
  obtain ⟨-, answers, -⟩ := first _ rfl nofun
  obtain ⟨stays, ⟨-, unknown⟩ | ⟨binding, error, bound, faults, reported⟩⟩ := refused rfl
  · cases unknown
  obtain ⟨-, -, rejects⟩ := second _ rfl nofun
  cases bound
  cases reported
  exact ⟨logged, (answers _).2 ⟨rfl, conformed⟩, stays, faults, rejects _ rfl⟩

end NativeBinding
