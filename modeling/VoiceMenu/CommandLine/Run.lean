import VoiceMenu.Call.Attendant
import VoiceMenu.CommandLine.Request
import VoiceMenu.Release
import VoiceMenu.Settings

/-!
# Running the program

Both commands begin by loading the settings and the flow file. `check-config` then checks
them against each other and reports what it found, and `simulate` plays one call with them
and writes down its turns.
-/

set_option autoImplicit false

namespace VoiceMenu.CommandLine

inductive RunError where
  | settings (error : SettingsError)
  | logFile (error : FileError) (path : String)
  | flowFile (error : FlowFileError)
  | definition (error : DefinitionError)
  | fallback (error : CycleError)
  | turn (error : TurnError)

def RunError.message : RunError → String
  | .settings error => error.message
  | .logFile error path => s!"{error.message}: {path}"
  | .flowFile error => error.message
  | .definition error => error.message
  | .fallback error => error.message
  | .turn error => error.message

structure Transcript where
  lines : List String
  error : Option RunError := none

/-! ### A simulated call -/

/-- How a turn is written down: its state, its prompts, and its keys unless the call is
over. -/
def turnLines (turn : Turn) : List String :=
  s!"[{turn.state}]" :: turn.prompts.map ("  < " ++ ·) ++
    (if turn.isFinal then []
    else ["  keys: " ++ String.intercalate " " turn.acceptedKeys.keys])

def pressedLines (digits : Option String) : List String :=
  digits.toList.map ("  > " ++ ·)

/-- The end of a call, which is forgotten. -/
def hangUp (callId : String) (store : CallStore) : Transcript :=
  match (Attendant.hangup callId store).result with
  | .error error => ⟨[], some (.turn error)⟩
  | .ok () => ⟨[], none⟩

/-- Writes down one turn and what is pressed for it, and goes on unless it fails. -/
def playTurn (attendant : Attendant Json) (now : Instant) (callId : String)
    (digits : Option String) (store : CallStore) (goOn : Turn → CallStore → Transcript) :
    Transcript :=
  match attendant.handle now callId digits store with
  | ⟨.error error, _, _⟩ => ⟨pressedLines digits, some (.turn error)⟩
  | ⟨.ok turn, changed, _⟩ =>
      let more := goOn turn changed
      ⟨pressedLines digits ++ turnLines turn ++ more.lines, more.error⟩

/-- Goes on with a call after a turn, with the digits of the turns to come. Nothing more
is pressed once the call is over. -/
def playOn (attendant : Attendant Json) (now : Instant) (callId : String) :
    List String → Turn → CallStore → Transcript
  | [], _, store => hangUp callId store
  | pressed :: rest, turn, store =>
      if turn.isFinal then hangUp callId store
      else playTurn attendant now callId (some pressed) store (playOn attendant now callId rest)

def playCall (attendant : Attendant Json) (now : Instant) (callId : String)
    (digits : List String) : Transcript :=
  playTurn attendant now callId none .empty (playOn attendant now callId digits)

/-! ### Commands -/

structure Setup where
  settings : Settings
  file : FlowFile

/-- Settings are checked before they are used, wherever they come from. -/
def validated (loaded : Except SettingsError Settings) : Except RunError Settings := do
  let settings ← loaded.mapError .settings
  settings.validate.mapError .settings
  pure settings

/-- The settings in the file at the path. Without that file they are the default ones. -/
def loadSettings {m : Type → Type} [Monad m] (files : Files m) (path : String) :
    m (Except RunError Settings) := do
  if ← files.isPresent path then
    let content ← files.read path
    pure (validated (Settings.load path content))
  else pure (validated (.ok {}))

def openLogFile {m : Type → Type} [Monad m] (files : Files m) :
    Option String → m (Except RunError Unit)
  | none => pure (.ok ())
  | some path => do
      let opened ← files.openLog path
      pure (opened.mapError (.logFile · path))

/-- Loads the settings, opens the log, and loads the flow file. -/
def prepare {m : Type → Type} [Monad m] (files : Files m) (settingsPath : String) :
    m (Except RunError Setup) := do
  match ← loadSettings files settingsPath with
  | .error error => pure (.error error)
  | .ok settings => do
      match ← openLogFile files settings.logFile with
      | .error error => pure (.error error)
      | .ok () => do
          let content ← files.read settings.flow
          pure <| do
            let file ← (FlowFile.load settings.flow content).mapError .flowFile
            pure { settings, file }

/-- The flow of the file, which the settings have to fit. -/
def Setup.flow (setup : Setup) : Except RunError Flow := do
  let flow ← setup.file.flow.mapError .definition
  (setup.settings.checkFlow flow).mapError .settings
  pure flow

def checkTranscript (stamp : Release.BuildStamp) (setup : Setup) : Transcript :=
  match setup.flow with
  | .error error => ⟨[], some error⟩
  | .ok flow =>
      let count := flow.states.length
      ⟨Release.infoLines stamp ++
        [s!"Flow '{flow.name}' is valid: {count} states, starting at '{flow.initial.name}'"],
        none⟩

def Setup.attendant (setup : Setup) (flow : Flow) : Except CycleError (Attendant Json) :=
  let interpreter : Interpreter Json := { flow, resolver := setup.file.resolver }
  let attendant : Attendant Json :=
    { interpreter := interpreter.withStepLimit setup.settings.stepLimit, codec := .json }
  match setup.settings.fallbackState with
  | none => .ok attendant
  | some state => attendant.withFallback state

def simulateTranscript (now : Instant) (setup : Setup) (callId : String) (digits : List String) :
    Transcript :=
  match setup.flow with
  | .error error => ⟨[], some error⟩
  | .ok flow =>
      match setup.attendant flow with
      | .error error => ⟨[], some (.fallback error)⟩
      | .ok attendant => playCall attendant now callId digits

/-- What a command reports on what is loaded. A call without an id gets the spare one. -/
def Command.transcript (stamp : Release.BuildStamp) (now : Instant) (spareId : String)
    (setup : Setup) : Command → Transcript
  | .checkConfig => checkTranscript stamp setup
  | .simulate call digits => simulateTranscript now setup (call.getD spareId) digits

def runCommand {m : Type → Type} [Monad m] (files : Files m) (stamp : Release.BuildStamp)
    (now : Instant) (spareId : String) (settingsPath : String) (command : Command) :
    m Transcript := do
  match ← prepare files settingsPath with
  | .error error => pure ⟨[], some error⟩
  | .ok setup => pure (command.transcript stamp now spareId setup)

inductive Ending where
  | misused (error : UsageError)
  | finished (transcript : Transcript)

namespace Ending

/-- The exit code: 2 for wrong usage, 1 for an error, else 0. -/
def exitCode : Ending → Nat
  | .misused _ => 2
  | .finished ⟨_, some _⟩ => 1
  | .finished ⟨_, none⟩ => 0

def lines : Ending → List String
  | .misused _ => []
  | .finished transcript => transcript.lines

end Ending

def run {m : Type → Type} [Monad m] (files : Files m) (stamp : Release.BuildStamp)
    (now : Instant) (spareId : String) (arguments : List String) : m Ending := do
  match parse arguments with
  | .error error => pure (.misused error)
  | .ok .help => pure (.finished ⟨helpLines, none⟩)
  | .ok .version => pure (.finished ⟨[Release.title], none⟩)
  | .ok (.run settingsPath command) => do
      let transcript ← runCommand files stamp now spareId settingsPath command
      pure (.finished transcript)

end VoiceMenu.CommandLine
