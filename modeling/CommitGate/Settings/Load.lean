import CommitGate.Fault
import CommitGate.Files
import CommitGate.Settings.Document

/-!
# Finding the settings

The settings come from a file that the command line names, which then has to exist, or else from the
file with the usual name in the working directory, if there is one. Without a file they are the
default ones, and they are also if files are not to be looked at.
-/

namespace CommitGate.Settings

/-- The usual name of a settings file. -/
def fileName : Text := ".commit-guard.toml".toList

/-- Where the settings are to be looked for. -/
inductive Place where
  /-- Nowhere: the default settings are wanted. -/
  | nowhere
  /-- In the working directory, under the usual name. -/
  | usual
  /-- In the file with this path. -/
  | file (path : Text)
  deriving DecidableEq, Repr

/-- The place that the command line asks for: files may be ruled out, and a path may be given. -/
def Place.wanted (noFiles : Bool) (path : Option Text) : Place :=
  if noFiles then .nowhere
  else
    match path with
    | some p => .file p
    | none => .usual

/-- The fault that a complaint about a document is. -/
def Complaint.fault (document : Text) (c : Complaint) : Fault :=
  let shown := Toml.excerpt document c.extent c.trouble.message
  match c.trouble with
  | .malformed _ | .outOfRange => .malformedDocument shown
  | _ => .unfitDocument shown

/-- The settings in the file with the given path. -/
def readFile (files : Files) (path : Text) : Except Fault Settings :=
  match files.text path with
  | .error e => .error (.unreadableFile path e.message)
  | .ok document => (ofDocument document).mapError (·.fault document)

/-- The settings found at a place. -/
def load (files : Files) : Place → Except Fault Settings
  | .nowhere => .ok {}
  | .usual =>
    match files.directory with
    | none => .ok {}
    | some directory =>
      let path := Files.join directory fileName
      if files.has path then readFile files path else .ok {}
  | .file path =>
    if files.has path then readFile files path
    else .error (.settings ("Config file not found: ".toList ++ path))

end CommitGate.Settings
