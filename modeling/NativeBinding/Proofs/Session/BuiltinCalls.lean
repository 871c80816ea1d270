import NativeBinding.Proofs.Session.OnlyBuiltins

/-!
# What any calls of the builtins leave behind

A session that binds nothing but the builtins, and writes to a buffer, is called again and again.
What is in the buffer and in the instances afterwards is told by the calls that succeeded alone:
the texts that were printed, one behind the other, and for every response the bytes stored last.
Nothing else has changed.
-/

set_option autoImplicit false

namespace NativeBinding.Session

/-- A call as it was made and what it came to. -/
structure Attempt where
  signature : Signature
  args : List Value
  outcome : Except DispatchError (List Value)

def Attempt.succeeded (attempt : Attempt) (signature : Signature) : Bool :=
  attempt.signature == signature && attempt.outcome.isOk

/-- What the successful calls under one signature were called with. -/
def answered (signature : Signature) (attempts : List Attempt) : List (List Value) :=
  (attempts.filter fun attempt => attempt.succeeded signature).map Attempt.args

/-- Makes the calls one after the other, each on what the one before has left. -/
def invokeAll (session : Session) (world : World) :
    List (Signature × List Value) → Session × World × List Attempt
  | [] => (session, world, [])
  | (signature, args) :: calls =>
      let (next, later, outcome) := session.invoke world signature args
      let (last, final, attempts) := next.invokeAll later calls
      (last, final, ⟨signature, args, outcome⟩ :: attempts)

/-- A response with the bytes that were stored in it. -/
abbrev Store := InstanceRef × List UInt8

def store (session : Session) (heap : Heap) (store : Store) : Heap :=
  heap.storeBody (session.nameOf "payload") (session.nameOf "contentType") store.1 store.2

/-- How the fields of an instance after a run follow from the body stored in it last. -/
structure Stored (session : Session) (before after : Heap) (ref : InstanceRef)
    (last? : Option Store) : Prop where
  untouched : last? = none → ∀ field, after.field? ref field = before.field? ref field
  payload : ∀ response bytes, last? = some (response, bytes) →
    after.field? ref (session.nameOf "payload") = some (.blob bytes)
  contentType : ∀ response bytes, last? = some (response, bytes) →
    after.field? ref (session.nameOf "contentType") = some (.string Builtin.octetStream)
  others : ∀ field, field ≠ session.nameOf "payload" → field ≠ session.nameOf "contentType" →
    after.field? ref field = before.field? ref field

/-- The successful calls printed these texts and stored these bytes, and that is all that any call
has done. -/
structure Accounted (session : Session) (world : World) (held : String) (attempts : List Attempt)
    (texts : List String) (stores : List Store) (last : Session) (final : World) : Prop where
  printed : answered (Builtin.printSignature session.nameOf) attempts =
    texts.map fun text => [.string text]
  stored : answered (Builtin.setBinaryPayloadSignature session.nameOf) attempts =
    stores.map fun store => [.struct store.1, .blob store.2]
  responses : ∀ store ∈ stores, store.1.type = Builtin.responseType session.nameOf
  sink : last = { session with sink := .buffer (held ++ String.join texts) }
  heap : final = { world with heap := stores.foldl session.store world.heap }

theorem succeeded_ok (signature : Signature) (args results : List Value) :
    Attempt.succeeded ⟨signature, args, .ok results⟩ signature = true := by
  rw [Attempt.succeeded, beq_self_eq_true]
  rfl

theorem succeeded_other {signature asked : Signature} (other : signature ≠ asked)
    (args : List Value) (outcome : Except DispatchError (List Value)) :
    Attempt.succeeded ⟨signature, args, outcome⟩ asked = false := by
  rw [Attempt.succeeded, beq_eq_false_iff_ne.2 other, Bool.false_and]

theorem succeeded_error (signature asked : Signature) (args : List Value)
    (error : DispatchError) :
    Attempt.succeeded ⟨signature, args, .error error⟩ asked = false :=
  Bool.and_false _

theorem answered_of_succeeded {signature : Signature} {attempt : Attempt}
    (succeeded : attempt.succeeded signature = true) (attempts : List Attempt) :
    answered signature (attempt :: attempts) = attempt.args :: answered signature attempts := by
  simp only [answered, List.filter_cons, succeeded, if_true, List.map_cons]

theorem answered_of_not {signature : Signature} {attempt : Attempt}
    (not : attempt.succeeded signature = false) (attempts : List Attempt) :
    answered signature (attempt :: attempts) = answered signature attempts := by
  simp only [answered, List.filter_cons, not, Bool.false_eq_true, if_false]

section

variable {session : Session}

/-- One call does one of four things, seen from the session. -/
theorem invoke_effect (only : session.OnlyBuiltins) (world : World) (signature : Signature)
    (args : List Value) :
    ∃ context outcome, session.invoke world signature args =
        ({ session with sink := context.sink }, context.world, outcome) ∧
      Builtin.Effect session.nameOf ⟨session.settings.properties, session.sink, world⟩
        signature args (context, outcome) :=
  ⟨_, _, rfl, Builtin.invoke_effect session.nameOf only.bound _ signature args⟩

theorem accounted_nil {held : String} (buffered : session.sink = .buffer held) (world : World) :
    Accounted session world held [] [] [] session world where
  printed := rfl
  stored := rfl
  responses := by simp
  sink := by
    have same : held ++ String.join [] = held := String.append_empty
    rw [same, ← buffered]
  heap := rfl

theorem accounted_skip {world final : World} {held : String} {attempts : List Attempt}
    {texts : List String} {stores : List Store} {last : Session} {attempt : Attempt}
    (notPrinted : attempt.succeeded (Builtin.printSignature session.nameOf) = false)
    (notStored : attempt.succeeded (Builtin.setBinaryPayloadSignature session.nameOf) = false)
    (later : Accounted session world held attempts texts stores last final) :
    Accounted session world held (attempt :: attempts) texts stores last final where
  printed := (answered_of_not notPrinted attempts).trans later.printed
  stored := (answered_of_not notStored attempts).trans later.stored
  responses := later.responses
  sink := later.sink
  heap := later.heap

theorem accounted_print {world final : World} {held text : String} {attempts : List Attempt}
    {texts : List String} {stores : List Store} {last : Session} (results : List Value)
    (later : Accounted { session with sink := .buffer (held ++ text) } world (held ++ text)
      attempts texts stores last final) :
    Accounted session world held
      (⟨Builtin.printSignature session.nameOf, [.string text], .ok results⟩ :: attempts)
      (text :: texts) stores last final where
  printed := by
    rw [answered_of_succeeded (succeeded_ok _ _ results)]
    exact congrArg _ later.printed
  stored := by
    rw [answered_of_not (succeeded_other (print_not_store session) _ _)]
    exact later.stored
  responses := later.responses
  sink := by
    have joined : held ++ String.join (text :: texts) = held ++ text ++ String.join texts := by
      rw [String.join_cons, String.append_assoc]
    rw [joined]
    exact later.sink
  heap := later.heap

theorem accounted_store {world final : World} {held : String} {response : InstanceRef}
    {bytes : List UInt8} {attempts : List Attempt} {texts : List String} {stores : List Store}
    {last : Session} (results : List Value)
    (typed : response.type = Builtin.responseType session.nameOf)
    (later : Accounted session
      { world with heap := session.store world.heap (response, bytes) } held attempts texts
      stores last final) :
    Accounted session world held
      (⟨Builtin.setBinaryPayloadSignature session.nameOf, [.struct response, .blob bytes],
        .ok results⟩ :: attempts) texts ((response, bytes) :: stores) last final where
  printed := by
    rw [answered_of_not (succeeded_other (print_not_store session).symm _ _)]
    exact later.printed
  stored := by
    rw [answered_of_succeeded (succeeded_ok _ _ results)]
    exact congrArg _ later.stored
  responses := List.forall_mem_cons.2 ⟨typed, later.responses⟩
  sink := later.sink
  heap := later.heap

theorem accounted_run (only : session.OnlyBuiltins) (world : World) {held : String}
    (buffered : session.sink = .buffer held) (calls : List (Signature × List Value)) :
    ∃ texts stores, Accounted session world held (session.invokeAll world calls).2.2 texts stores
      (session.invokeAll world calls).1 (session.invokeAll world calls).2.1 := by
  induction calls generalizing session world held with
  | nil => exact ⟨[], [], accounted_nil buffered world⟩
  | cons call calls ih =>
      obtain ⟨signature, args⟩ := call
      obtain ⟨context, outcome, invoked, effect⟩ := invoke_effect only world signature args
      simp only [invokeAll, invoked]
      -- Failing and reading leave session and world as they are, so the rest of the run starts
      -- there.
      cases effect with
      | failed _ _ error =>
          obtain ⟨texts, stores, later⟩ := ih only world buffered
          exact ⟨texts, stores, accounted_skip (succeeded_error _ _ _ error)
            (succeeded_error _ _ _ error) later⟩
      | read key =>
          obtain ⟨texts, stores, later⟩ := ih only world buffered
          exact ⟨texts, stores, accounted_skip
            (succeeded_other (getProperty_not_print only) _ _)
            (succeeded_other (getProperty_not_store session) _ _) later⟩
      | printed text =>
          have onlyNext : OnlyBuiltins { session with sink := .buffer (held ++ text) } :=
            ⟨only.exact, only.named, only.bound⟩
          obtain ⟨texts, stores, later⟩ := ih onlyNext world rfl
          simp only [Context.print, buffered, Sink.print]
          exact ⟨text :: texts, stores, accounted_print [] later⟩
      | stored response bytes typed =>
          let next : World := { world with heap := session.store world.heap (response, bytes) }
          obtain ⟨texts, stores, later⟩ := ih only next buffered
          exact ⟨texts, (response, bytes) :: stores, accounted_store [] typed later⟩

theorem stored_here (only : session.OnlyBuiltins) {before after : Heap} {ref : InstanceRef}
    {last? : Option Store} (earlier : Stored session before after ref last?)
    {response : InstanceRef} (here : ref.address = response.address) (bytes : List UInt8) :
    Stored session before (session.store after (response, bytes)) ref
      (some (response, bytes)) where
  untouched := by
    intro none
    cases none
  payload := by
    intro _ _ last
    cases last
    exact after.payload_storeBody bytes (payload_not_contentType only) here
  contentType := by
    intro _ _ last
    cases last
    exact after.contentType_storeBody bytes here
  others := by
    intro field notPayload notContentType
    rw [store, after.other_field_storeBody bytes notPayload notContentType]
    exact earlier.others field notPayload notContentType

theorem stored_elsewhere {before after : Heap} {ref : InstanceRef} {last? : Option Store}
    (earlier : Stored session before after ref last?) {response : InstanceRef}
    (elsewhere : ref.address ≠ response.address) (bytes : List UInt8) :
    Stored session before (session.store after (response, bytes)) ref last? := by
  have kept : ∀ field, (session.store after (response, bytes)).field? ref field =
      after.field? ref field := by
    intro field
    exact after.other_instance_storeBody bytes elsewhere
  constructor
  · intro none field
    rw [kept, earlier.untouched none]
  · intro _ _ last
    rw [kept, earlier.payload _ _ last]
  · intro _ _ last
    rw [kept, earlier.contentType _ _ last]
  · intro field notPayload notContentType
    rw [kept, earlier.others field notPayload notContentType]

/-- Of all bodies stored in an instance, through whichever reference, the last one is there. -/
theorem stored_replay (only : session.OnlyBuiltins) (heap : Heap) (stores : List Store)
    (ref : InstanceRef) :
    Stored session heap (stores.foldl session.store heap) ref
      (stores.filter fun store => ref.address = store.1.address).getLast? := by
  induction stores using List.reverseRecOn with
  | nil => exact ⟨fun _ _ => rfl, nofun, nofun, fun _ _ _ => rfl⟩
  | append_singleton stores store ih =>
      rw [List.foldl_append, List.filter_append, List.filter_singleton]
      by_cases here : ref.address = store.1.address
      · rw [decide_eq_true here, cond_true, List.getLast?_concat]
        exact stored_here only ih here store.2
      · rw [decide_eq_false here, cond_false, List.append_nil]
        exact stored_elsewhere ih here store.2

theorem next_replay (session : Session) (heap : Heap) (stores : List Store) :
    (stores.foldl session.store heap).next = heap.next := by
  induction stores generalizing heap with
  | nil => rfl
  | cons store rest ih => exact ih (session.store heap store)

theorem invoke_failed (only : session.OnlyBuiltins) {world : World} {signature : Signature}
    {args : List Value} {error : DispatchError}
    (failed : (session.invoke world signature args).2.2 = .error error) :
    session.invoke world signature args = (session, world, .error error) := by
  obtain ⟨context, outcome, invoked, effect⟩ := invoke_effect only world signature args
  rw [invoked] at failed ⊢
  cases effect with
  | failed => exact congrArg (fun outcome => (session, world, outcome)) failed
  | _ => cases failed

theorem invoke_getProperty (only : session.OnlyBuiltins) (world : World) (args : List Value) :
    ∃ outcome, session.invoke world (Builtin.getPropertySignature session.nameOf) args =
      (session, world, outcome) := by
  generalize asked : Builtin.getPropertySignature session.nameOf = signature
  obtain ⟨context, outcome, invoked, effect⟩ := invoke_effect only world signature args
  rw [invoked]
  cases effect with
  | failed => exact ⟨_, rfl⟩
  | read => exact ⟨_, rfl⟩
  | printed => exact absurd asked (getProperty_not_print only)
  | stored => exact absurd asked (getProperty_not_store session)

theorem only_builtins_invokeAll (only : session.OnlyBuiltins) (world : World)
    (calls : List (Signature × List Value)) :
    (session.invokeAll world calls).1.OnlyBuiltins := by
  induction calls generalizing session world with
  | nil => exact only
  | cons call calls ih =>
      have onlyNext : (session.invoke world call.1 call.2).1.OnlyBuiltins :=
        ⟨only.exact, only.named, only.bound⟩
      exact ih onlyNext (session.invoke world call.1 call.2).2.1

end

/-- Whatever is called with whatever arguments, the buffer grows by the texts of the successful
prints in their order, and each of these was called with one text. Every successful store was called
with a response and bytes, and every instance holds the body stored in it last, under every
reference to it, and its other fields as before. The rest of the session and of the world stays.
Wherever such calls have led, one more call that fails or that reads a property changes nothing. -/
theorem builtin_calls_accounted (session : Session) (only : session.OnlyBuiltins) (held : String)
    (buffered : session.sink = .buffer held) (world : World)
    (calls : List (Signature × List Value)) :
    ∃ (last : Session) (final : World) (attempts : List Attempt) (texts : List String)
        (stores : List Store),
      session.invokeAll world calls = (last, final, attempts) ∧
      answered (Builtin.printSignature session.nameOf) attempts =
        (texts.map fun text => [.string text]) ∧
      last.sink.captured = held ++ String.join texts ∧
      last = { session with sink := .buffer last.sink.captured } ∧
      answered (Builtin.setBinaryPayloadSignature session.nameOf) attempts =
        (stores.map fun store => [.struct store.1, .blob store.2]) ∧
      (∀ store ∈ stores, store.1.type = Builtin.responseType session.nameOf) ∧
      (∀ ref, Stored session world.heap final.heap ref
        (stores.filter fun store => ref.address = store.1.address).getLast?) ∧
      final.heap.next = world.heap.next ∧ final.console = world.console ∧
      (∀ signature args error, (last.invoke final signature args).2.2 = .error error →
        last.invoke final signature args = (last, final, .error error)) ∧
      ∀ args, ∃ outcome, last.invoke final (Builtin.getPropertySignature session.nameOf) args =
        (last, final, outcome) := by
  obtain ⟨texts, stores, accounted⟩ := accounted_run only world buffered calls
  have onlyLast := only_builtins_invokeAll only world calls
  generalize session.invokeAll world calls = ended at accounted onlyLast
  obtain ⟨last, final, attempts⟩ := ended
  obtain ⟨printed, stored, responses, rfl, rfl⟩ := accounted
  refine ⟨_, _, attempts, texts, stores, rfl, printed, rfl, rfl, stored, responses, ?_, ?_, rfl,
    ?_, ?_⟩
  · intro ref
    exact stored_replay only world.heap stores ref
  · exact next_replay session world.heap stores
  · intro signature args error failed
    exact invoke_failed onlyLast failed
  · intro args
    exact invoke_getProperty onlyLast _ args

/-- Two prints and three stores, two of them in one instance, among calls that fail: an unknown
action, a print of a number and a store in an instance of another type. -/
def mixedCalls : List (Signature × List Value) :=
  let name := (start {} .emptyBuffer).nameOf
  let response (address : Nat) : Value := .struct ⟨address, Builtin.responseType name⟩
  let stranger : Value := .struct ⟨0, ⟨name "io", name "print"⟩⟩
  [(Builtin.printSignature name, [.string "a"]),
    (Builtin.setBinaryPayloadSignature name, [response 0, .blob [1]]),
    (⟨.action, name "io", ⟨none, name "print"⟩, [.string]⟩, [.string "lost"]),
    (Builtin.setBinaryPayloadSignature name, [response 1, .blob [3]]),
    (Builtin.printSignature name, [.int 7]),
    (Builtin.getPropertySignature name, [.string "absent"]),
    (Builtin.setBinaryPayloadSignature name, [response 0, .blob [2]]),
    (Builtin.setBinaryPayloadSignature name, [stranger, .blob [4]]),
    (Builtin.printSignature name, [.string "b"])]

/-- Which bytes are stored where, if these are the arguments of a store. -/
def store? : List Value → Option Store
  | [.struct response, .blob bytes] => some (response, bytes)
  | _ => none

theorem mixed_calls_accounted :
    (start {} .emptyBuffer).OnlyBuiltins ∧ (start {} .emptyBuffer).sink = .buffer "" ∧
      ∃ last final attempts,
        (start {} .emptyBuffer).invokeAll .initial mixedCalls = (last, final, attempts) ∧
        last.sink.captured = "ab" ∧
        final.heap.field? ⟨0, Builtin.responseType (start {} .emptyBuffer).nameOf⟩
          ((start {} .emptyBuffer).nameOf "payload") = some (.blob [2]) := by
  have only : (start {} .emptyBuffer).OnlyBuiltins := only_builtins_start rfl .emptyBuffer
  obtain ⟨last, final, attempts, texts, stores, ran, printed, captured, -, stored, -, fields, -⟩ :=
    builtin_calls_accounted _ only "" rfl .initial mixedCalls
  have recorded : attempts = ((start {} .emptyBuffer).invokeAll .initial mixedCalls).2.2 := by
    rw [ran]
  rw [recorded] at printed stored
  have prints : (answered (Builtin.printSignature (start {} .emptyBuffer).nameOf)
      ((start {} .emptyBuffer).invokeAll .initial mixedCalls).2.2).map
        (fun args => args.head?.bind Value.string?) = ["a", "b"].map some := by
    decide +kernel
  let response (address : Nat) : InstanceRef := ⟨address, ⟨⟨13⟩, ⟨16⟩⟩⟩
  have bodies : (answered (Builtin.setBinaryPayloadSignature (start {} .emptyBuffer).nameOf)
      ((start {} .emptyBuffer).invokeAll .initial mixedCalls).2.2).map store? =
        [(response 0, [1]), (response 1, [3]), (response 0, [2])].map some := by
    decide +kernel
  rw [printed, List.map_map] at prints
  rw [stored, List.map_map] at bodies
  have sameTexts : texts = ["a", "b"] := List.map_injective_iff.2 (Option.some_injective _) prints
  have sameStores := List.map_injective_iff.2 (Option.some_injective Store) bodies
  rw [sameTexts] at captured
  rw [sameStores] at fields
  refine ⟨only, rfl, last, final, attempts, ran, captured, ?_⟩
  exact (fields _).payload (response 0) [2] rfl

end NativeBinding.Session
