/-!
# Releases

The name and version of the program, and the texts that tell them.
-/

set_option autoImplicit false

namespace VoiceMenu.Release

def programName : String := "ivrflow"

def version : String := "0.1.0"

structure BuildStamp where
  time : String := "unknown"
  commit : String := "unknown"
  branch : String := "unknown"
  /-- `clean` or `dirty`, if that is known. -/
  status : String := "unknown"

def title : String := s!"{programName} {version}"

def infoLines (stamp : BuildStamp) : List String :=
  [title, s!"Build Time: {stamp.time}", s!"Git Commit: {stamp.commit}",
    s!"Git Branch: {stamp.branch}", s!"Git Status: {stamp.status}"]

/-- The version with the commit it was built from, marked if that was changed. -/
def shortVersion (stamp : BuildStamp) : String :=
  if stamp.status = "dirty" then s!"{version}-{stamp.commit}-dirty"
  else s!"{version}-{stamp.commit}"

end VoiceMenu.Release
