/-!
# Command lines

What the arguments of the program ask for. Options may be written `--name value` or
`--name=value`; after `--` every argument is a plain one.
-/

set_option autoImplicit false

namespace VoiceMenu.CommandLine

inductive Command where
  | checkConfig
  /-- Plays one call with the digits of its turns after the first. -/
  | simulate (call : Option String) (digits : List String)
  deriving DecidableEq, Repr

inductive Request where
  | help
  | version
  | run (settingsPath : String) (command : Command)
  deriving DecidableEq, Repr

inductive UsageError where
  | unexpected (argument : String)
  | missingValue (option : String)
  | repeated (option : String)
  deriving DecidableEq, Repr

def UsageError.message : UsageError → String
  | .unexpected argument => s!"unexpected argument '{argument}' found"
  | .missingValue option => s!"a value is required for '{option}' but none was supplied"
  | .repeated option => s!"the argument '{option}' cannot be used multiple times"

def defaultSettingsPath : String := "ivrflow.toml"

inductive Argument where
  /-- The mark after which all arguments are plain. -/
  | endOfOptions
  | long (name : String) (value : Option String)
  /-- The first of a group of one-letter options. -/
  | short (letter : Char)
  | plain
  deriving DecidableEq, Repr

/-- The form of an argument. A single hyphen is a plain argument. -/
def Argument.of (argument : String) : Argument :=
  match argument.toList with
  | ['-', '-'] => .endOfOptions
  | '-' :: '-' :: rest =>
      let name := String.ofList (rest.takeWhile (· != '='))
      match rest.dropWhile (· != '=') with
      | [] => .long name none
      | _ :: value => .long name (some (String.ofList value))
  | '-' :: letter :: _ => .short letter
  | _ => .plain

/-- Reads the value of an option: the attached one, or the next argument if that is
plain. Gives the value with the arguments after it. -/
def optionValue (option : String) (attached : Option String) (rest : List String) :
    Except UsageError (String × List String) :=
  match attached, rest with
  | some value, _ => .ok (value, rest)
  | none, value :: rest =>
      if Argument.of value = .plain then .ok (value, rest) else .error (.missingValue option)
  | none, [] => .error (.missingValue option)

theorem optionValue_length {option : String} {attached : Option String} {rest tail : List String}
    {value : String} (found : optionValue option attached rest = .ok (value, tail)) :
    tail.length ≤ rest.length := by
  unfold optionValue at found
  split at found
  · cases found
    exact Nat.le_refl _
  · split at found
    · cases found
      simp
    · simp at found
  · simp at found

def parseSimulate (call : Option String) (digits : List String) :
    List String → Except UsageError (Option Command)
  | [] => .ok (some (.simulate call digits))
  | argument :: rest =>
      match Argument.of argument with
      | .endOfOptions => .ok (some (.simulate call (digits ++ rest)))
      | .plain => parseSimulate call (digits ++ [argument]) rest
      | .short letter => if letter = 'h' then .ok none else .error (.unexpected argument)
      | .long "help" none => .ok none
      | .long "call" attached =>
          match _found : optionValue "--call" attached rest with
          | .error error => .error error
          | .ok (value, tail) =>
              if call.isSome then .error (.repeated "--call")
              else parseSimulate (some value) digits tail
      | .long _ _ => .error (.unexpected argument)
termination_by arguments => arguments.length
decreasing_by
  · simp
  · have := optionValue_length _found
    simp only [List.length_cons]
    omega

def parseCheckConfig : List String → Except UsageError (Option Command)
  | [] | ["--"] => .ok (some .checkConfig)
  | "--" :: argument :: _ => .error (.unexpected argument)
  | argument :: _ =>
      match Argument.of argument with
      | .short 'h' | .long "help" none => .ok none
      | _ => .error (.unexpected argument)

def commandNames : List String := ["check-config", "simulate", "help"]

def parseCommand (name : String) (rest : List String) : Except UsageError (Option Command) :=
  match name with
  | "check-config" => parseCheckConfig rest
  | "simulate" => parseSimulate none [] rest
  | "help" =>
      match rest with
      | [] => .ok none
      | [topic] => if topic ∈ commandNames then .ok none else .error (.unexpected topic)
      | _ :: extra :: _ => .error (.unexpected extra)
  | _ => .error (.unexpected name)

def parseFrom (settingsPath : Option String) : List String → Except UsageError Request
  | [] => .ok (.run (settingsPath.getD defaultSettingsPath) .checkConfig)
  | argument :: rest =>
      match Argument.of argument with
      | .endOfOptions =>
          match rest with
          | [] => .ok (.run (settingsPath.getD defaultSettingsPath) .checkConfig)
          | extra :: _ => .error (.unexpected extra)
      | .plain =>
          match parseCommand argument rest with
          | .error error => .error error
          | .ok none => .ok .help
          | .ok (some command) => .ok (.run (settingsPath.getD defaultSettingsPath) command)
      | .short letter =>
          if letter = 'h' then .ok .help
          else if letter = 'V' then .ok .version
          else .error (.unexpected argument)
      | .long "help" none => .ok .help
      | .long "version" none => .ok .version
      | .long "conf" attached =>
          match _found : optionValue "--conf" attached rest with
          | .error error => .error error
          | .ok (value, tail) =>
              if settingsPath.isSome then .error (.repeated "--conf")
              else parseFrom (some value) tail
      | .long _ _ => .error (.unexpected argument)
termination_by arguments => arguments.length
decreasing_by
  have := optionValue_length _found
  simp only [List.length_cons]
  omega

def parse (arguments : List String) : Except UsageError Request := parseFrom none arguments

def helpLines : List String :=
  ["Usage: ivrflow [--conf <CONF>] [COMMAND]",
    "",
    "Commands:",
    "  check-config  Load the configuration and the flow file, report errors and exit",
    "  simulate      Run one call through the flow, answering turns with the given digits",
    "  help          Print this message"]

end VoiceMenu.CommandLine
