import VoiceMenu.CommandLine.Run
import VoiceMenu.Proofs.Call.SeparationProperties

/-! Checking is a preview of simulating. Both commands fail in the same way until a call is
played, and what is played is written down turn by turn, as an attendant answers it. -/

set_option autoImplicit false

namespace VoiceMenu

open CommandLine

/-! ## Settings of a flow -/

/-- The settings allow at least one step, and a fallback state that they name is in the flow. -/
structure Settings.Fit (settings : Settings) (flow : Flow) : Prop where
  steps : settings.stepLimit ≠ 0
  fallback : ∀ state, settings.fallbackState = some state → flow.declares state = true

theorem Settings.fit_iff {settings : Settings} {flow : Flow} :
    settings.Fit flow ↔ settings.validate = .ok () ∧ settings.checkFlow flow = .ok () := by
  have steps : settings.validate = .ok () ↔ settings.stepLimit ≠ 0 := by
    unfold Settings.validate
    split <;> simp_all
  have fallback : settings.checkFlow flow = .ok () ↔
      ∀ state, settings.fallbackState = some state → flow.declares state = true := by
    cases wanted : settings.fallbackState with
    | none => simp [Settings.checkFlow, wanted]
    | some state => simp [Settings.checkFlow, wanted]
  rw [steps, fallback]
  exact ⟨fun fit => ⟨fit.steps, fit.fallback⟩, fun fit => ⟨fit.1, fit.2⟩⟩

/-! ## Transcripts -/

def CallRequest.lines : CallRequest → List String
  | .handle _ request => pressedLines request.digits
  | .hangup _ => []

def Exchange.lines (exchange : Exchange) : List String :=
  match exchange.answer with
  | .ok (some turn) => exchange.request.lines ++ turnLines turn
  | _ => exchange.request.lines

namespace CommandLine

/-- The exchanges are told one after the other. The first one that is final or failed is the
last one told. -/
inductive Transcript.Tells : Transcript → List Exchange → Prop where
  | nothing : Tells ⟨[], none⟩ []
  | failed {exchange : Exchange} {rest : List Exchange} {error : TurnError} :
      exchange.answer = .error error → Tells ⟨exchange.lines, some (.turn error)⟩ (exchange :: rest)
  | final {exchange : Exchange} {rest : List Exchange} {turn : Turn} :
      exchange.answer = .ok (some turn) → turn.isFinal = true →
      Tells ⟨exchange.lines, none⟩ (exchange :: rest)
  | goesOn {exchange : Exchange} {rest : List Exchange} {turn : Turn} {more : Transcript} :
      exchange.answer = .ok (some turn) → turn.isFinal = false → Tells more rest →
      Tells ⟨exchange.lines ++ more.lines, more.error⟩ (exchange :: rest)

def RunError.IsTurn : RunError → Prop
  | .turn _ => True
  | _ => False

/-- A turn was requested: it is written down, or its error is. -/
def Transcript.ReachesTurn (transcript : Transcript) : Prop :=
  transcript.lines ≠ [] ∨ ∃ error, transcript.error = some error ∧ error.IsTurn

theorem Transcript.Tells.reachesTurn {transcript : Transcript} {exchange : Exchange}
    {rest : List Exchange} (tells : transcript.Tells (exchange :: rest)) :
    transcript.ReachesTurn := by
  have shown {turn : Turn} (answered : exchange.answer = .ok (some turn)) :
      exchange.lines ≠ [] := by
    simp [Exchange.lines, answered, turnLines]
  cases tells with
  | failed => exact .inr ⟨_, rfl, trivial⟩
  | final answered => exact .inl (shown answered)
  | goesOn answered => exact .inl (List.append_ne_nil_of_left_ne_nil (shown answered) _)

/-- The first turn of a call and those with the given digits. -/
def requestsOfCall (now : Instant) (callId : String) (digits : List String) : List CallRequest :=
  .handle callId ⟨now, none⟩ :: digits.map fun pressed => .handle callId ⟨now, some pressed⟩

/-! ## Playing a call -/

section Playing

variable {attendant : Attendant Json} {now : Instant} {callId : String} {store : CallStore}

theorem hangUp_of_reliable (reliable : store.Reliable) : hangUp callId store = ⟨[], none⟩ := by
  simp only [hangUp, Attendant.hangup, CallStore.remove, reliable.inOrder]

theorem playOn_of_isFinal (reliable : store.Reliable) {turn : Turn} (final : turn.isFinal = true)
    (digits : List String) : playOn attendant now callId digits turn store = ⟨[], none⟩ := by
  rw [← hangUp_of_reliable reliable]
  cases digits with
  | nil => rfl
  | cons pressed rest => exact if_pos final

/-- A turn is told and then, unless it was the end, what comes of the requests after it. -/
theorem playTurn_tells (reliable : store.Reliable) (digits : Option String)
    {rest : List CallRequest} {goOn : Turn → CallStore → Transcript}
    (stops : ∀ turn later, later.Reliable → turn.isFinal = true → goOn turn later = ⟨[], none⟩)
    (tells : ∀ turn later, later.Reliable → turn.isFinal = false →
      (goOn turn later).Tells (attendant.exchanges rest later)) :
    (playTurn attendant now callId digits store goOn).Tells
      (attendant.exchanges (.handle callId ⟨now, digits⟩ :: rest) store) := by
  have reliableLater := attendant.serve_reliable reliable (.handle callId ⟨now, digits⟩)
  rw [Attendant.exchanges]
  simp only [playTurn, Attendant.serve] at reliableLater ⊢
  generalize attendant.handle now callId digits store = handled at reliableLater ⊢
  obtain ⟨result, later, log⟩ := handled
  cases result with
  | error error =>
      have failed : Exchange.answer ⟨.handle callId ⟨now, digits⟩, .error error, log⟩ =
        .error error := rfl
      exact .failed failed
  | ok turn =>
      have answered : Exchange.answer ⟨.handle callId ⟨now, digits⟩, .ok (some turn), log⟩ =
        .ok (some turn) := rfl
      cases final : turn.isFinal with
      | false => exact .goesOn answered final (tells turn later reliableLater final)
      | true =>
          dsimp only
          rw [stops turn later reliableLater final, List.append_nil]
          exact .final answered final

theorem playOn_tells (reliable : store.Reliable) {turn : Turn} (goesOn : turn.isFinal = false)
    (digits : List String) :
    (playOn attendant now callId digits turn store).Tells
      (attendant.exchanges (digits.map fun pressed => .handle callId ⟨now, some pressed⟩)
        store) := by
  induction digits generalizing turn store with
  | nil =>
      -- The store has no outage, so that the end of the call cannot fail.
      rw [playOn, hangUp_of_reliable reliable]
      exact .nothing
  | cons pressed rest ih =>
      rw [playOn, if_neg (by simp [goesOn])]
      exact playTurn_tells reliable (some pressed)
        (fun _ _ reliableLater final => playOn_of_isFinal reliableLater final rest)
        (fun _ _ reliableLater goesOnLater => ih reliableLater goesOnLater)

theorem playCall_tells (attendant : Attendant Json) (now : Instant) (callId : String)
    (digits : List String) :
    (playCall attendant now callId digits).Tells
      (attendant.exchanges (requestsOfCall now callId digits) .empty) :=
  playTurn_tells CallStore.empty_reliable none
    (fun _ _ reliable final => playOn_of_isFinal reliable final digits)
    (fun _ _ reliable goesOn => playOn_tells reliable goesOn digits)

end Playing

/-! ## Getting ready -/

/-- A result is as described, or an error that comes before any turn. -/
def Yields {α : Type} (Gives : α → Prop) : Except RunError α → Prop
  | .ok value => Gives value
  | .error error => ¬ error.IsTurn

theorem Yields.imp {α : Type} {Gives Also : α → Prop} {result : Except RunError α}
    (yields : Yields Gives result) (imp : ∀ value, Gives value → Also value) :
    Yields Also result := by
  cases result with
  | error error => exact yields
  | ok value => exact imp value yields

theorem Yields.bind {α β : Type} {Gives : α → Prop} {GivesNext : β → Prop}
    {first : Except RunError α} {next : α → Except RunError β} (yields : Yields Gives first)
    (yieldsNext : ∀ value, Gives value → Yields GivesNext (next value)) :
    Yields GivesNext (first >>= next) := by
  cases first with
  | error error => exact yields
  | ok value => exact yieldsNext value yields

theorem yields_mapError {ε α : Type} {wrap : ε → RunError} (result : Except ε α)
    (early : ∀ error, ¬ (wrap error).IsTurn := by intro _ turn; exact turn) :
    Yields (result = .ok ·) (result.mapError wrap) := by
  cases result with
  | error error => exact early error
  | ok value => exact rfl

theorem mapError_bind_of_ok {ε α β : Type} {wrap : ε → RunError} {result : Except ε α} {value : α}
    {next : α → Except RunError β} (found : result = .ok value) :
    (result.mapError wrap >>= next) = next value := by
  rw [found]
  rfl

theorem validated_yields (loaded : Except SettingsError Settings) :
    Yields (fun settings => loaded = .ok settings ∧ settings.validate = .ok ())
      (validated loaded) := by
  unfold validated
  refine (yields_mapError loaded).bind fun settings loads => ?_
  exact (yields_mapError settings.validate).bind fun _ valid => ⟨loads, valid⟩

theorem Setup.flow_yields (setup : Setup) :
    Yields (fun flow => setup.file.flow = .ok flow ∧ setup.settings.checkFlow flow = .ok ())
      setup.flow := by
  unfold Setup.flow
  refine (yields_mapError setup.file.flow).bind fun flow defines => ?_
  exact (yields_mapError (setup.settings.checkFlow flow)).bind fun _ fits => ⟨defines, fits⟩

section Preparing

variable {σ : Type}

/-- The settings in force are those of the file at the path. Without that file they are the
default ones. -/
inductive SettingsAt (files : Files (StateM σ)) (path : String) (world : σ) :
    Settings → σ → Prop where
  | default {later : σ} :
      (files.isPresent path).run world = (false, later) → SettingsAt files path world {} later
  | inFile {between later : σ} {content : Except FileError String} {settings : Settings} :
      (files.isPresent path).run world = (true, between) →
      (files.read path).run between = (content, later) →
      Settings.load path content = .ok settings →
      SettingsAt files path world settings later

/-- What both commands work with: the settings and the flow file that they name. -/
inductive Loads (files : Files (StateM σ)) (path : String) (world : σ) : Setup → σ → Prop where
  | loaded {settings : Settings} {file : FlowFile} {content : Except FileError String}
      {between opened later : σ} :
      SettingsAt files path world settings between →
      (openLogFile files settings.logFile).run between = (.ok (), opened) →
      (files.read settings.flow).run opened = (content, later) →
      FlowFile.load settings.flow content = .ok file →
      Loads files path world ⟨settings, file⟩ later

theorem run_bind_of_run {α β : Type} {first : StateM σ α} {next : α → StateM σ β}
    {world later : σ} {value : α} (ran : first.run world = (value, later)) :
    (first >>= next).run world = (next value).run later := by
  rw [StateT.run_bind, ran]
  rfl

theorem loadSettings_yields {files : Files (StateM σ)} {path : String} {world later : σ}
    {result : Except RunError Settings}
    (loading : (loadSettings files path).run world = (result, later)) :
    Yields (fun settings => SettingsAt files path world settings later ∧
      settings.validate = .ok ()) result := by
  rcases looked : (files.isPresent path).run world with ⟨here, between⟩
  rw [loadSettings, run_bind_of_run looked] at loading
  cases here with
  | false =>
      cases loading
      refine (validated_yields (.ok {})).imp fun settings ⟨defaults, valid⟩ => ?_
      cases defaults
      exact ⟨.default looked, valid⟩
  | true =>
      rcases reads : (files.read path).run between with ⟨content, after⟩
      rw [if_pos rfl, run_bind_of_run reads] at loading
      cases loading
      refine (validated_yields _).imp fun settings ⟨loads, valid⟩ => ?_
      exact ⟨.inFile looked reads loads, valid⟩

theorem openLogFile_yields {files : Files (StateM σ)} {path? : Option String} {world later : σ}
    {result : Except RunError Unit}
    (opening : (openLogFile files path?).run world = (result, later)) :
    Yields (fun _ => True) result := by
  cases path? with
  | none =>
      cases opening
      trivial
  | some path =>
      rcases opens : (files.openLog path).run world with ⟨opened, after⟩
      rw [openLogFile, run_bind_of_run opens] at opening
      cases opening
      exact (yields_mapError opened).imp fun _ _ => trivial

theorem prepare_yields {files : Files (StateM σ)} {path : String} {world later : σ}
    {result : Except RunError Setup}
    (preparing : (prepare files path).run world = (result, later)) :
    Yields (fun setup => Loads files path world setup later ∧
      setup.settings.validate = .ok ()) result := by
  rcases loading : (loadSettings files path).run world with ⟨loaded, between⟩
  have settingsYielded := loadSettings_yields loading
  rw [prepare, run_bind_of_run loading] at preparing
  cases loaded with
  | error error =>
      cases preparing
      exact settingsYielded
  | ok settings =>
      rcases opening : (openLogFile files settings.logFile).run between with ⟨opened, after⟩
      have logYielded := openLogFile_yields opening
      dsimp only at preparing
      rw [run_bind_of_run opening] at preparing
      cases opened with
      | error error =>
          cases preparing
          exact logYielded
      | ok _ =>
          rcases reading : (files.read settings.flow).run after with ⟨content, last⟩
          dsimp only at preparing
          rw [run_bind_of_run reading] at preparing
          cases preparing
          obtain ⟨inForce, valid⟩ := settingsYielded
          refine (yields_mapError (FlowFile.load settings.flow content)).bind ?_
          intro file loads
          exact ⟨.loaded inForce opening reading loads, valid⟩

theorem loadSettings_of_settingsAt {files : Files (StateM σ)} {path : String} {world later : σ}
    {settings : Settings} (inForce : SettingsAt files path world settings later)
    (valid : settings.validate = .ok ()) :
    (loadSettings files path).run world = (.ok settings, later) := by
  have accepted : validated (.ok settings) = .ok settings := by
    rw [validated, mapError_bind_of_ok rfl, mapError_bind_of_ok valid]
    rfl
  cases inForce with
  | default looked =>
      rw [loadSettings, run_bind_of_run looked]
      exact congrArg (·, later) accepted
  | inFile looked reads loads =>
      rw [loadSettings, run_bind_of_run looked, if_pos rfl, run_bind_of_run reads, loads]
      exact congrArg (·, later) accepted

theorem prepare_of_loads {files : Files (StateM σ)} {path : String} {world later : σ}
    {setup : Setup} (loads : Loads files path world setup later)
    (valid : setup.settings.validate = .ok ()) :
    (prepare files path).run world = (.ok setup, later) := by
  obtain ⟨inForce, opens, reads, fileLoads⟩ := loads
  rw [prepare, run_bind_of_run (loadSettings_of_settingsAt inForce valid)]
  dsimp only
  rw [run_bind_of_run opens]
  dsimp only
  rw [run_bind_of_run reads, fileLoads]
  rfl

end Preparing

/-! ## Both commands -/

section Commands

variable {σ : Type} {setup : Setup} {flow : Flow}

/-- The attendant serves the flow of the file, with its constant replies, the step limit and
the fallback state of the settings. -/
structure Setup.Configures (setup : Setup) (attendant : Attendant Json) : Prop where
  flow : setup.file.flow = .ok attendant.interpreter.flow
  resolver : attendant.interpreter.resolver = setup.file.resolver
  stepLimit : attendant.interpreter.stepLimit = setup.settings.stepLimit
  fallback : attendant.fallback = setup.settings.fallbackState
  codec : attendant.codec = .json

theorem Setup.attendant_of_fits (fits : setup.settings.checkFlow flow = .ok ()) :
    ∃ attendant, setup.attendant flow = .ok attendant := by
  cases wanted : setup.settings.fallbackState with
  | none => simp [Setup.attendant, wanted]
  | some state =>
      have declared : flow.declares state = true := by
        simpa [Settings.checkFlow, wanted] using fits
      simp [Setup.attendant, wanted, Attendant.withFallback, Interpreter.withStepLimit, declared]

theorem Setup.configures_attendant {attendant : Attendant Json}
    (fit : setup.settings.Fit flow) (defines : setup.file.flow = .ok flow)
    (made : setup.attendant flow = .ok attendant) : setup.Configures attendant := by
  have limit : max setup.settings.stepLimit 1 = setup.settings.stepLimit :=
    Nat.max_eq_left (Nat.pos_of_ne_zero fit.steps)
  cases wanted : setup.settings.fallbackState with
  | none =>
      simp only [Setup.attendant, wanted] at made
      cases made
      exact ⟨defines, rfl, limit, wanted.symm, rfl⟩
  | some state =>
      simp only [Setup.attendant, wanted, Attendant.withFallback] at made
      split at made
      · cases made
        exact ⟨defines, rfl, limit, wanted.symm, rfl⟩
      · cases made

theorem Setup.Configures.fit {attendant : Attendant Json}
    (configures : setup.Configures attendant) :
    setup.settings.Fit attendant.interpreter.flow where
  steps := configures.stepLimit ▸ Nat.ne_of_gt attendant.interpreter.stepLimit_pos
  fallback state wanted := attendant.fallback_declared state (configures.fallback.trans wanted)

variable {files : Files (StateM σ)} {world later : σ} {stamp : Release.BuildStamp}
  {now : Instant} {spareId path : String} {arguments : List String} {command : Command}

theorem run_of_unprepared {error : RunError}
    (asked : parse arguments = .ok (.run path command))
    (preparing : (prepare files path).run world = (.error error, later)) :
    (run files stamp now spareId arguments).run world =
      (.finished ⟨[], some error⟩, later) := by
  simp only [run, asked, runCommand]
  rw [bind_assoc, run_bind_of_run preparing]
  rfl

theorem run_of_prepared (asked : parse arguments = .ok (.run path command))
    (preparing : (prepare files path).run world = (.ok setup, later)) :
    (run files stamp now spareId arguments).run world =
      (.finished (command.transcript stamp now spareId setup), later) := by
  simp only [run, asked, runCommand]
  rw [bind_assoc, run_bind_of_run preparing]
  rfl

theorem Setup.flow_of_fit (defines : setup.file.flow = .ok flow)
    (fit : setup.settings.Fit flow) : setup.flow = .ok flow := by
  obtain ⟨-, fits⟩ := Settings.fit_iff.mp fit
  rw [Setup.flow, mapError_bind_of_ok defines, mapError_bind_of_ok fits]
  rfl

theorem Transcript.Tells.exitCode {transcript : Transcript} {exchanges : List Exchange}
    (tells : transcript.Tells exchanges) :
    transcript.error = none ∧ (Ending.finished transcript).exitCode = 0 ∨
      ∃ error, transcript.error = some (.turn error) ∧
        (Ending.finished transcript).exitCode = 1 := by
  induction tells with
  | nothing => exact .inl ⟨rfl, rfl⟩
  | failed => exact .inr ⟨_, rfl, rfl⟩
  | final => exact .inl ⟨rfl, rfl⟩
  | @goesOn _ _ _ more _ _ _ ih =>
      obtain ⟨lines, error⟩ := more
      cases error with
      | none => exact .inl ⟨rfl, rfl⟩
      | some error => simpa [Ending.exitCode] using ih

/-- The transcript tells how the attendant that the loaded files configure answers the requests. -/
def Transcript.Plays (files : Files (StateM σ)) (path : String) (world later : σ)
    (requests : List CallRequest) (transcript : Transcript) : Prop :=
  ∃ setup attendant, Loads files path world setup later ∧ Setup.Configures setup attendant ∧
    transcript.Tells (attendant.exchanges requests .empty)

/-- What checking reports tells in advance what comes of simulating with the same files. -/
structure Previews (files : Files (StateM σ)) (path : String) (world later : σ)
    (requests : List CallRequest) (checked simulated : Transcript) : Prop where
  succeeds_iff : (Ending.finished checked).exitCode = 0 ↔ ∃ setup flow,
    Loads files path world setup later ∧ setup.file.flow = .ok flow ∧ setup.settings.Fit flow
  reaches_turn_iff : (Ending.finished checked).exitCode = 0 ↔ simulated.ReachesTurn
  same_error : (Ending.finished checked).exitCode ≠ 0 →
    ∃ error, checked = ⟨[], some error⟩ ∧ simulated = ⟨[], some error⟩
  plays : (Ending.finished checked).exitCode = 0 →
    simulated.Plays files path world later requests
  ends : (Ending.finished checked).exitCode = 0 →
    simulated.error = none ∧ (Ending.finished simulated).exitCode = 0 ∨
      ∃ error, simulated.error = some (.turn error) ∧ (Ending.finished simulated).exitCode = 1

theorem previews_of_refused {requests : List CallRequest} {error : RunError}
    (early : ¬ error.IsTurn)
    (unfit : ∀ setup flow, Loads files path world setup later → setup.file.flow = .ok flow →
      ¬ setup.settings.Fit flow) :
    Previews files path world later requests ⟨[], some error⟩ ⟨[], some error⟩ where
  succeeds_iff := by
    refine ⟨nofun, ?_⟩
    intro ⟨setup, flow, loads, defines, fit⟩
    exact absurd fit (unfit setup flow loads defines)
  reaches_turn_iff := by
    refine ⟨nofun, fun reached => ?_⟩
    exact absurd reached (by simpa [Transcript.ReachesTurn] using early)
  same_error _ := ⟨error, rfl, rfl⟩
  plays := nofun
  ends := nofun

theorem previews_of_played {request : CallRequest} {rest : List CallRequest}
    {lines : List String} {simulated : Transcript}
    (plays : simulated.Plays files path world later (request :: rest)) :
    Previews files path world later (request :: rest) ⟨lines, none⟩ simulated := by
  have ⟨setup, attendant, loads, configures, tells⟩ := plays
  exact
    { succeeds_iff := by
        refine ⟨fun _ => ?_, fun _ => rfl⟩
        exact ⟨setup, attendant.interpreter.flow, loads, configures.flow, configures.fit⟩
      reaches_turn_iff := ⟨fun _ => tells.reachesTurn, fun _ => rfl⟩
      same_error := fun fails => absurd rfl fails
      plays := fun _ => plays
      ends := fun _ => tells.exitCode }

theorem Loads.previews (loads : Loads files path world setup later)
    (valid : setup.settings.validate = .ok ()) (stamp : Release.BuildStamp)
    (now : Instant) (callId : String) (digits : List String) :
    Previews files path world later (requestsOfCall now callId digits)
      (checkTranscript stamp setup) (simulateTranscript now setup callId digits) := by
  have yielded := setup.flow_yields
  unfold checkTranscript simulateTranscript
  cases checked : setup.flow with
  | error error =>
      rw [checked] at yielded
      refine previews_of_refused yielded fun other flow loadsOther defines fit => ?_
      -- The files are loaded in one way only, so the other setup is the one that was refused.
      have prepares := prepare_of_loads loadsOther (Settings.fit_iff.mp fit).1
      cases (prepare_of_loads loads valid).symm.trans prepares
      cases checked.symm.trans (Setup.flow_of_fit defines fit)
  | ok flow =>
      rw [checked] at yielded
      obtain ⟨defines, fits⟩ := yielded
      obtain ⟨attendant, made⟩ := Setup.attendant_of_fits fits
      have fit := Settings.fit_iff.mpr ⟨valid, fits⟩
      have configures := Setup.configures_attendant fit defines made
      simp only [made]
      exact previews_of_played ⟨setup, attendant, loads, configures, playCall_tells ..⟩

/-- Checking previews simulating. It succeeds exactly if the files load, define a flow and have
settings that fit it, and exactly if simulating comes to the first turn of the call. Otherwise both
end with the same error and nothing else. The turns of the call are those of the attendant that the
settings configure for the flow, up to the first one that is final or fails, and only such a failure
makes simulating fail. An attendant never refuses a fallback state that fits the flow. -/
theorem check_previews_simulation (files : Files (StateM σ)) (world : σ)
    (stamp : Release.BuildStamp) (now : Instant) (spareId : String)
    {checking simulating : List String} {path : String} {call : Option String}
    {digits : List String} (checks : parse checking = .ok (.run path .checkConfig))
    (simulates : parse simulating = .ok (.run path (.simulate call digits))) :
    (∃ checked simulated later,
      (run files stamp now spareId checking).run world = (.finished checked, later) ∧
      (run files stamp now spareId simulating).run world = (.finished simulated, later) ∧
      Previews files path world later (requestsOfCall now (call.getD spareId) digits)
        checked simulated) ∧
      ∀ (setup : Setup) (flow : Flow), setup.settings.checkFlow flow = .ok () →
        ∃ attendant, setup.attendant flow = .ok attendant := by
  refine ⟨?_, fun _ _ fits => Setup.attendant_of_fits fits⟩
  rcases preparing : (prepare files path).run world with ⟨prepared, later⟩
  have yielded := prepare_yields preparing
  cases prepared with
  | error error =>
      refine ⟨_, _, later, run_of_unprepared checks preparing,
        run_of_unprepared simulates preparing, previews_of_refused yielded ?_⟩
      intro setup flow loads _ fit
      have prepares := prepare_of_loads loads (Settings.fit_iff.mp fit).1
      cases preparing.symm.trans prepares
  | ok setup =>
      obtain ⟨loads, valid⟩ := yielded
      exact ⟨_, _, later, run_of_prepared checks preparing, run_of_prepared simulates preparing,
        loads.previews valid stamp now (call.getD spareId) digits⟩

end Commands

/-- The settings and the flow of a line with one key, which ends the call. -/
def menuFiles : Files (StateM Unit) where
  isPresent path := pure (path = "ivrflow.toml")
  read path := pure <|
    if path = "ivrflow.toml" then .ok "flow = \"menu.toml\"\nfallback_state = \"bye\""
    else if path = "menu.toml" then .ok <| "[flow]\nname = \"menu\"\n" ++
      "[[flow.states]]\nname = \"hello\"\n" ++
      "keys = [\x7bkey = \"1\", event = \"end\", go = \"bye\"\x7d]\n" ++
      "[[flow.states]]\nname = \"bye\"\nsay = [\"Good bye\"]"
    else .error .missing
  openLog _ := pure (.error .denied)

theorem menuFiles_call_is_as_checked :
    parse ["check-config"] = .ok (.run "ivrflow.toml" .checkConfig) ∧
      parse ["simulate", "1", "2"] = .ok (.run "ivrflow.toml" (.simulate none ["1", "2"])) ∧
      ∃ checked simulated,
        (run menuFiles {} ⟨0, 0⟩ "call-1" ["check-config"]).run () = (.finished checked, ()) ∧
        (run menuFiles {} ⟨0, 0⟩ "call-1" ["simulate", "1", "2"]).run () =
          (.finished simulated, ()) ∧
        (Ending.finished checked).exitCode = 0 ∧
        simulated.lines = ["[hello]", "  keys: 1", "  > 1", "[bye]", "  < Good bye"] ∧
        simulated.Plays menuFiles "ivrflow.toml" () ()
          (requestsOfCall ⟨0, 0⟩ "call-1" ["1", "2"]) := by
  have checks : parse ["check-config"] = .ok (.run "ivrflow.toml" .checkConfig) := by cbv
  have simulates : parse ["simulate", "1", "2"] =
      .ok (.run "ivrflow.toml" (.simulate none ["1", "2"])) := by cbv
  obtain ⟨⟨checked, simulated, later, checkRuns, simulateRuns, previews⟩, -⟩ :=
    check_previews_simulation menuFiles () {} ⟨0, 0⟩ "call-1" checks simulates
  have told : ((run menuFiles {} ⟨0, 0⟩ "call-1" ["simulate", "1", "2"]).run ()).1.lines =
      ["[hello]", "  keys: 1", "  > 1", "[bye]", "  < Good bye"] := by
    decide +kernel
  rw [simulateRuns] at told
  change simulated.lines = _ at told
  have shown : simulated.lines ≠ [] := told ▸ List.cons_ne_nil _ _
  have valid : (Ending.finished checked).exitCode = 0 := previews.reaches_turn_iff.mpr (.inl shown)
  exact ⟨checks, simulates, checked, simulated, checkRuns, simulateRuns, valid, told,
    previews.plays valid⟩

end CommandLine

end VoiceMenu
