import VoiceMenu.Flow.File
import VoiceMenu.Toml.Reader

/-!
# Access to files

What the program needs of a file system, and why a file cannot be read. Everything
that reads files takes the access as a parameter, so that it can be run on a file
system and on a value that stands for one.
-/

set_option autoImplicit false

namespace VoiceMenu

inductive FileError where
  | missing
  | denied
  | notAFolder
  | isFolder
  | tooLong
  /-- The path contains the character NUL, which no path can. -/
  | containsNul
  /-- The content is not text in UTF-8. -/
  | notText
  | other (reason : String)
  deriving DecidableEq, Repr

def FileError.message : FileError → String
  | .missing => "No such file or directory (os error 2)"
  | .denied => "Permission denied (os error 13)"
  | .notAFolder => "Not a directory (os error 20)"
  | .isFolder => "Is a directory (os error 21)"
  | .tooLong => "File name too long (os error 36)"
  | .containsNul => "file name contained an unexpected NUL byte"
  | .notText => "stream did not contain valid UTF-8"
  | .other reason => reason

def pathBound : Nat := 4096

/-- Names in a path may have at most this many bytes. -/
def nameBound : Nat := 255

/-- What is wrong with a path that leads nowhere in any file system. -/
def pathFault? (path : String) : Option FileError :=
  if '\x00' ∈ path.toList then some .containsNul
  else if path = "" then some .missing
  else if pathBound ≤ path.utf8ByteSize then some .tooLong
  else none

structure Files (m : Type → Type) where
  isPresent : (path : String) → m Bool
  read : (path : String) → m (Except FileError String)
  /-- Opens a file for appending, and makes it if it is missing. -/
  openLog : (path : String) → m (Except FileError Unit)

inductive FlowFileError where
  | unreadable (error : FileError) (path : String)
  /-- The text is not TOML, or has not the structure of a flow file. -/
  | malformed (path : String)
  | undefined (path : String) (error : DefinitionError)
  deriving DecidableEq, Repr

/-- The wording of a flow file error. What is wrong with malformed text is not told. -/
def FlowFileError.message : FlowFileError → String
  | .unreadable error path => s!"{error.message}: {path}"
  | .malformed path => s!"{path}: malformed flow file"
  | .undefined path error => s!"{path}: {error.message}"

def FlowFile.load (path : String) (content : Except FileError String) :
    Except FlowFileError FlowFile :=
  match content with
  | .error error => .error (.unreadable error path)
  | .ok text =>
      match (Toml.parse? text).bind FlowFile.ofDocument? with
      | none => .error (.malformed path)
      | some file =>
          match file.flow with
          | .error error => .error (.undefined path error)
          | .ok _ => .ok file

end VoiceMenu
