import VoiceMenu.CommandLine.Run

/-!
# The program

Runs the command line on the file system and prints what comes of it. Times are not
shown, so all turns of a simulated call take place at one instant.
-/

set_option autoImplicit false

open VoiceMenu

def fileErrorOf (error : IO.Error) : FileError :=
  match error with
  | .noFileOrDirectory .. => .missing
  | .permissionDenied .. => .denied
  | .inappropriateType _ code _ => if code = 21 then .isFolder else .notAFolder
  | .invalidArgument _ 36 _ => .tooLong
  | other => .other (toString other)

/-- Runs an operation on the file at a path, if the path can lead anywhere. -/
def onFile {α : Type} (path : String) (operation : IO (Except FileError α)) :
    IO (Except FileError α) :=
  match pathFault? path with
  | some fault => pure (.error fault)
  | none => do
      try operation
      catch error => pure (.error (fileErrorOf error))

/-- Access to the file system. A file that may not be read is present nevertheless. -/
def fileSystem : Files IO where
  isPresent path := do
    let opened ← onFile path do
      let _ ← IO.FS.Handle.mk path .read
      pure (.ok ())
    pure (match opened with
      | .ok () => true
      | .error error => error == .denied)
  read path := onFile path do
    let handle ← IO.FS.Handle.mk path .read
    let bytes ← handle.readBinToEnd
    pure (match String.fromUTF8? bytes with
      | some text => .ok text
      | none => .error .notText)
  openLog path := onFile path do
    let _ ← IO.FS.Handle.mk path .append
    pure (.ok ())

def main (arguments : List String) : IO UInt32 := do
  let spareId := toString (← IO.monoNanosNow)
  let ending ← CommandLine.run fileSystem {} ⟨0, 0⟩ spareId arguments
  for line in ending.lines do
    IO.println line
  match ending with
  | .misused error => IO.eprintln s!"error: {error.message}"
  | .finished ⟨_, some error⟩ => IO.eprintln s!"Error: {error.message}"
  | .finished ⟨_, none⟩ => pure ()
  pure ending.exitCode.toUInt32
