import NativeBinding.Proofs.Session.Environment
import NativeBinding.Proofs.Session.OnlyBuiltins

/-!
# Properties as a running session reads them

A session over settings is driven in any way that leaves the native that reads properties bound as
it was. Its settings are never written and its names never forgotten, so what the native answers
for a key is at every time what the settings had for it at the start.
-/

set_option autoImplicit false

namespace NativeBinding.Session

/-- Calls the native that reads properties by the name that the session has for it. -/
def readProperty (session : Session) (world : World) (key : String) :
    Session × World × Except DispatchError (List Value) :=
  session.invoke world (Builtin.getPropertySignature session.nameOf) [.string key]

/-- The sessions that load the builtins over the settings and neither bind `runtime:getProperty`
again nor take it out. -/
inductive KeepsGetProperty (settings : Settings) : Session → Prop where
  | started (sink : Sink) (loads : settings.loadBuiltins = true) :
      KeepsGetProperty settings (start settings sink)
  | after {session : Session} (kept : KeepsGetProperty settings session) (step : Step)
      (elsewhere : step.binds? (Builtin.getPropertySignature session.nameOf) = none) :
      KeepsGetProperty settings (session.after step)

/-- The settings are those given, and the native that reads them is bound under its own name. -/
structure ServesProperties (settings : Settings) (session : Session) : Prop where
  settings : session.settings = settings
  named : ∀ text ∈ Builtin.nativeNames, (session.names.name? text).isSome
  bound : ∃ declaration, session.natives.bindings.find?
      (Builtin.getPropertySignature session.nameOf) = some ⟨declaration, Builtin.getProperty⟩ ∧
    declaration.argTypes = [.string] ∧ declaration.returns = [.string]

theorem settings_after (session : Session) (step : Step) :
    (session.after step).settings = session.settings := by
  cases step <;> rfl

theorem binding_after {signature : Signature} (session : Session) {step : Step}
    (elsewhere : step.binds? signature = none) :
    (session.after step).natives.bindings.find? signature =
      session.natives.bindings.find? signature := by
  cases step with
  | registerNative binding =>
      have other : signature ≠ binding.declaration.signature := by
        intro same
        rw [Step.binds?, if_pos same] at elsewhere
        cases elsewhere
      exact (OrderedMap.find?_insert ..).trans (if_neg other)
  | unregisterNative declaration =>
      have other : signature ≠ declaration.signature := by
        intro same
        rw [Step.binds?, if_pos same] at elsewhere
        cases elsewhere
      exact (OrderedMap.find?_erase ..).trans (if_neg other)
  | _ => rfl

section

variable {settings : Settings} {session : Session}

theorem getProperty_signature_after (serves : session.ServesProperties settings) (step : Step) :
    Builtin.getPropertySignature (session.after step).nameOf =
      Builtin.getPropertySignature session.nameOf := by
  have runtime := nameOf_after (serves.named "runtime" (by decide)) step
  have getProperty := nameOf_after (serves.named "getProperty" (by decide)) step
  rw [Builtin.getPropertySignature, runtime, getProperty, Builtin.getPropertySignature]

theorem serves_after (serves : session.ServesProperties settings) {step : Step}
    (elsewhere : step.binds? (Builtin.getPropertySignature session.nameOf) = none) :
    (session.after step).ServesProperties settings where
  settings := (settings_after session step).trans serves.settings
  named := fun text there => named_after (serves.named text there) step
  bound := by
    rw [getProperty_signature_after serves step, binding_after session elsewhere]
    exact serves.bound

theorem serves_run (serves : session.ServesProperties settings) {steps : List Step}
    (elsewhere : ∀ step ∈ steps,
      step.binds? (Builtin.getPropertySignature session.nameOf) = none) :
    (session.run steps).ServesProperties settings := by
  unfold run
  induction steps generalizing session with
  | nil => exact serves
  | cons step rest ih =>
      apply ih (serves_after serves (elsewhere step List.mem_cons_self))
      rw [getProperty_signature_after serves step]
      intro next later
      exact elsewhere next (List.mem_cons_of_mem step later)

/-- The first builtin that is bound reads properties, and those after it leave it alone. -/
theorem serves_bound (only : session.OnlyBuiltins) :
    (session.run (Step.builtinBindings session)).ServesProperties session.settings := by
  simp only [Step.builtinBindings, Builtin.natives, List.map_cons, List.map_nil,
    List.cons_append, List.nil_append]
  rw [run_cons]
  apply serves_run
  · refine ⟨rfl, only.named, ?_⟩
    exact ⟨_, (OrderedMap.find?_insert ..).trans (if_pos rfl), rfl, rfl⟩
  · intro step later
    simp only [List.mem_cons, List.mem_map] at later
    rcases later with rfl | rfl | ⟨entry, -, rfl⟩
    · exact if_neg (getProperty_not_print only)
    · exact if_neg (getProperty_not_store session)
    · rfl

theorem serves_start (loads : settings.loadBuiltins = true) (sink : Sink) :
    (start settings sink).ServesProperties settings := by
  have started : start settings sink = (bare settings sink).loadBuiltins := if_pos loads
  have exact : (bare settings sink).names.Exact := NameTable.exact_fresh
  obtain ⟨names, only, loaded⟩ := load_builtins_named exact rfl
  rw [started, loaded]
  exact serves_bound only

theorem serves_kept (kept : session.KeepsGetProperty settings) :
    session.ServesProperties settings := by
  induction kept with
  | started sink loads => exact serves_start loads sink
  | after kept step elsewhere ih => exact serves_after ih elsewhere

/-- Reading a property changes nothing. -/
theorem readProperty_served (serves : session.ServesProperties settings) (world : World)
    (key : String) :
    session.readProperty world key =
      (session, world, .ok [.string ((settings.properties.find? key).getD "")]) := by
  obtain ⟨rfl, -, declaration, bound, takes, answers⟩ := serves
  have accepted : NativeTable.refuse? declaration [.string key] = none := by
    rw [NativeTable.refuse_none, takes]
    exact .cons rfl .nil
  have answered (text : String) : NativeTable.reject? declaration [.string text] = none := by
    rw [NativeTable.reject_none, answers]
    exact .cons rfl .nil
  rw [readProperty, invoke, NativeTable.invoke, bound]
  dsimp only
  rw [accepted]
  dsimp only [Builtin.getProperty]
  rw [answered]
  rfl

end

/-- What the variables and then the calls say is what a session does. The builtins stay out exactly
if the last variable for them says so. A property reads as the last call for its key set it, or else
as the last variable that spells the key says, or else as empty. Reading changes nothing, and of all
variables no other has a part in it. -/
theorem last_setting_decides (environment calls : List (String × String)) :
    ((Settings.ofVariables environment).loadBuiltins = false ↔
        ∃ value, lastValue? (· = Settings.noBuiltinsVariable) environment = some value ∧
          value ≠ "" ∧ value ≠ "0" ∧ value ≠ "false") ∧
      (Settings.configured environment calls).loadBuiltins =
        (Settings.ofVariables environment).loadBuiltins ∧
      (∀ session : Session, session.KeepsGetProperty (Settings.configured environment calls) →
        ∀ world key, session.readProperty world key =
          (session, world, .ok [.string (((lastValue? (· = key) calls).or
            (lastValue? (Spells · key) environment)).getD "")])) ∧
      ∀ other : List (String × String),
        (other.filter (·.1 = Settings.noBuiltinsVariable) =
            environment.filter (·.1 = Settings.noBuiltinsVariable) →
          (Settings.ofVariables other).loadBuiltins =
            (Settings.ofVariables environment).loadBuiltins) ∧
        ∀ key, other.filter (Spells ·.1 key) = environment.filter (Spells ·.1 key) →
          ∀ session changed : Session,
            session.KeepsGetProperty (Settings.configured environment calls) →
            changed.KeepsGetProperty (Settings.configured other calls) →
            ∀ world, (changed.readProperty world key).2 = (session.readProperty world key).2 := by
  have read (given : List (String × String)) {session : Session}
      (kept : session.KeepsGetProperty (Settings.configured given calls)) (world : World)
      (key : String) :
      session.readProperty world key =
        (session, world, .ok [.string (((lastValue? (· = key) calls).or
          (lastValue? (Spells · key) given)).getD "")]) := by
    rw [readProperty_served (serves_kept kept), Settings.find_configured]
  refine ⟨Settings.switched_off_iff environment, Settings.switch_withProperties _ calls, ?_, ?_⟩
  · intro session kept world key
    exact read environment kept world key
  · intro other
    constructor
    · intro same
      rw [Settings.switch_ofVariables, Settings.switch_ofVariables, lastValue?, lastValue?, same]
    · intro key same session changed kept changedKept world
      rw [read environment kept, read other changedKept, lastValue?, lastValue?, lastValue?, same]

/-- Several variables for one property, some that are for nothing, and the switch set twice. -/
def mixedVariables : List (String × String) :=
  [("TALA_NO_BUILTINS", "1"), ("TALA_PROP_User_HOME", "/first"), ("TALA_PROP_", "nothing"),
    ("TALA_PROP_USER.home", "/second"), ("tala_prop_user_home", "/third"),
    ("TALA_PROP_ÄB_c", "kept"), ("TALA_PROP_APP_MODE", "plain"), ("TALA_NO_BUILTINS", "false")]

/-- The same for one property, and otherwise all different. -/
def homeVariables : List (String × String) :=
  [("TALA_PROP_User_HOME", "/first"), ("PATH", "/usr/bin"), ("TALA_PROP_USER.home", "/second"),
    ("TALA_PROP_APP_MODE", "other")]

def modeCalls : List (String × String) := [("app.mode", "test"), ("APP.MODE", "no")]

/-- Takes no string, so it is not the native that reads properties. -/
def besides : Binding Context :=
  ⟨Declaration.function ⟨14⟩ ⟨15⟩, fun context _ => (context, [])⟩

/-- Over the mixed variables, with another native bound. -/
def mixedSession : Session :=
  (start (Settings.configured mixedVariables modeCalls) .silent).after (.registerNative besides)

theorem besides_elsewhere (session : Session) :
    (Step.registerNative besides).binds? (Builtin.getPropertySignature session.nameOf) = none := by
  apply if_neg
  intro same
  cases congrArg Signature.params same

theorem mixed_variables_read :
    let changed := start (Settings.configured homeVariables modeCalls) .console
    (Settings.ofVariables mixedVariables).loadBuiltins ≠ false ∧
      (mixedSession.readProperty .initial "user.home").2.2 = .ok [.string "/second"] ∧
      (mixedSession.readProperty .initial "Äb.c").2.2 = .ok [.string "kept"] ∧
      (mixedSession.readProperty .initial "app.mode").2.2 = .ok [.string "test"] ∧
      (mixedSession.readProperty .initial "").2.2 = .ok [.string ""] ∧
      (changed.readProperty .initial "user.home").2 =
        (mixedSession.readProperty .initial "user.home").2 := by
  intro changed
  obtain ⟨switch, same, read, independent⟩ := last_setting_decides mixedVariables modeCalls
  have on : (Settings.ofVariables mixedVariables).loadBuiltins ≠ false := by
    rw [ne_eq, switch]
    rintro ⟨value, last, -, -, notFalse⟩
    have lastSwitch : lastValue? (· = Settings.noBuiltinsVariable) mixedVariables =
        some "false" := by decide +kernel
    rw [lastSwitch] at last
    cases last
    exact notFalse rfl
  have kept : mixedSession.KeepsGetProperty (Settings.configured mixedVariables modeCalls) := by
    have loads : (Settings.configured mixedVariables modeCalls).loadBuiltins = true :=
      same.trans (Bool.eq_true_of_not_eq_false on)
    exact .after (.started .silent loads) (.registerNative besides) (besides_elsewhere _)
  have changedKept : changed.KeepsGetProperty (Settings.configured homeVariables modeCalls) :=
    .started .console (by decide)
  have reads (key value : String) (last : ((lastValue? (· = key) modeCalls).or
      (lastValue? (Spells · key) mixedVariables)).getD "" = value) :
      (mixedSession.readProperty .initial key).2.2 = .ok [.string value] := by
    rw [read mixedSession kept, last]
  refine ⟨on, ?_, ?_, ?_, ?_, ?_⟩
  · exact reads "user.home" "/second" (by decide)
  · exact reads "Äb.c" "kept" (by decide)
  · exact reads "app.mode" "test" (by decide)
  · exact reads "" "" (by decide)
  · obtain ⟨-, sameReading⟩ := independent homeVariables
    exact sameReading "user.home" (by decide) mixedSession changed kept changedKept .initial

end NativeBinding.Session
