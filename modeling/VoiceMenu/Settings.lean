import VoiceMenu.Files.Basic

/-!
# Settings

The settings file says which flow to run and how. Every setting may be left out.
-/

set_option autoImplicit false

namespace VoiceMenu

structure Settings where
  logLevel : Option String := some "info"
  logFile : Option String := none
  flow : String := "config/ivr/gorillas.toml"
  stepLimit : Nat := 1024
  /-- The state that a call goes to when its turn fails. -/
  fallbackState : Option String := none
  deriving DecidableEq, Repr

inductive SettingsError where
  | unreadable (error : FileError) (path : String)
  /-- The text is not TOML, or a setting has the wrong type. -/
  | malformed (path : String)
  | noSteps
  | unknownFallback (state : String) (flow : String)
  /-- An error of the settings in the file at the path. -/
  | inFile (path : String) (error : SettingsError)
  deriving DecidableEq, Repr

def SettingsError.message : SettingsError → String
  | .unreadable error path => s!"{error.message}: {path}"
  | .malformed path => s!"{path}: malformed settings"
  | .noSteps => "step_limit must be at least 1"
  | .unknownFallback state flow => s!"fallback_state '{state}' is not a state of flow '{flow}'"
  | .inFile path error => s!"{path}: {error.message}"

namespace Settings

open Document

/-- Reads settings; what is left out keeps its default. -/
def ofDocument? {τ : Type} [Document τ] (node : τ) : Option Settings := do
  let defaults : Settings := {}
  let members ← members? 5 node
  let logLevel ← members.withDefault "log_level" 0 defaults.logLevel fun node =>
    (text? node).map some
  let logFile ← members.withDefault "log_file" 1 defaults.logFile fun node =>
    (text? node).map some
  let flow ← members.withDefault "flow" 2 defaults.flow text?
  let stepLimit ← members.withDefault "step_limit" 3 defaults.stepLimit natural?
  let fallbackState ← members.withDefault "fallback_state" 4 defaults.fallbackState fun node =>
    (text? node).map some
  pure { logLevel, logFile, flow, stepLimit, fallbackState }

/-- Checks what can be checked without the flow. -/
def validate (settings : Settings) : Except SettingsError Unit :=
  if settings.stepLimit = 0 then .error .noSteps else .ok ()

def load (path : String) (content : Except FileError String) : Except SettingsError Settings :=
  match content with
  | .error error => .error (.unreadable error path)
  | .ok text =>
      match (Toml.parse? text).bind ofDocument? with
      | none => .error (.malformed path)
      | some settings =>
          match settings.validate with
          | .error error => .error (.inFile path error)
          | .ok () => .ok settings

/-- Checks that the fallback state, if there is one, is a state of the flow. -/
def checkFlow (settings : Settings) (flow : Flow) : Except SettingsError Unit :=
  match settings.fallbackState with
  | none => .ok ()
  | some state =>
      if flow.declares state then .ok () else .error (.unknownFallback state flow.name)

end Settings

end VoiceMenu
