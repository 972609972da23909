import CommitGate.Cleanup
import CommitGate.History.Discovery
import CommitGate.Notice
import CommitGate.Options.Parse
import CommitGate.Options.Usage

/-!
# The program

What a command line does, given what surrounds the program: files, standard input and a repository.
The settings come first, whatever is to be done with them. A single message is cleaned up and
reviewed; otherwise the history is walked, and having none is not an error. What cannot be done is
told in a notice, and the exit code says so.
-/

namespace CommitGate

/-- What surrounds a run of the program. -/
structure Surroundings where
  /-- The file system. -/
  files : Files
  /-- The bytes of standard input. -/
  input : List UInt8
  /-- The repository of the working directory, if there is one. -/
  repository : Option Repository
  /-- Whether text goes to a terminal that shows colours. -/
  terminal : Bool

namespace Program

/-- The exit code when something cannot be done. -/
def failureCode : Nat := 2

/-- Whether text is coloured. -/
def isColored (s : Surroundings) : ColorChoice → Bool
  | .auto => s.terminal
  | .always => true
  | .never => false

/-- The reporter that the options ask for. -/
def reporterFor (s : Surroundings) (o : Options) : Reporter where
  format := o.format
  color := isColored s o.color
  quiet := o.quiet
  verbosity := o.verbosity

/-- The paths that a run may read, when it works in the given directory. -/
def paths (directory : Option Text) (o : Options) : List Text :=
  let settings :=
    match Settings.Place.wanted o.noConfig o.config with
    | .nowhere => []
    | .usual => directory.toList.map (Files.join · Settings.fileName)
    | .file path => [path]
  settings ++ o.messageFile.toList

/-- The settings in force: those of the file, with the ones of the command line in their place. -/
def settingsFor (s : Surroundings) (o : Options) : Except Fault Settings := do
  let found ← Settings.load s.files (Settings.Place.wanted o.noConfig o.config)
  .ok (found.override ⟨o.base, o.limit⟩)

/-- Whether a path stands for standard input, which a dash does. Slashes and single dots that follow
change nothing about what a path means. -/
def isInput (path : Text) : Bool :=
  match path.splitOn '/' with
  | [] => false
  | name :: rest => name = ['-'] && rest.all fun next => next = [] || next = ['.']

/-- The message at a path, or on standard input. -/
def messageAt (s : Surroundings) (path : Text) : Except Fault Text :=
  if isInput path then
    match Utf8.decode? s.input with
    | some t => .ok t
    | none => .error (.stream ReadFailure.notText.message)
  else (s.files.text path).mapError fun e => .unreadableFile path e.message

/-- Writes a notice. -/
def tell (s : Surroundings) (o : Options) (n : Notice) : Transcript Unit :=
  .write .error (n.text (isColored s o.color))

/-- The warning about a directory without a repository. -/
def nothingToCheck : Notice :=
  .ofWarning "No git repository found; no commits were checked".toList none
    (some "Run commit-guard inside a git work tree".toList)

/-- Does what the options ask for. -/
def carryOut (s : Surroundings) (o : Options) : Except Fault (Transcript Nat) := do
  let settings ← settingsFor s o
  match o.messageFile with
  | some path =>
    let message := cleanup (← messageAt s path)
    .ok ((reviewMessage (reporterFor s o) message).andThen fun count => .done (exitCodeFor count))
  | none =>
    match s.repository with
    | none => .ok ((tell s o nothingToCheck).andThen fun _ => .done 0)
    | some repository =>
      let options : WalkOptions := { full := o.full, limit := settings.limit }
      let walked := walk (repository.source settings.baseRef) options (reporterFor s o)
      .ok (walked.andThen fun outcome => .done outcome.exitCode)

/-- The notice of a fault. -/
def noticeOf (f : Fault) : Notice := .ofError f.kind f.message f.detail? none

/-- Ends a run with the notice of a fault. -/
def failed (s : Surroundings) (o : Options) (f : Fault) : Transcript Nat :=
  (tell s o (noticeOf f)).andThen fun _ => .done failureCode

/-- Runs the program with options: its writes, and its exit code. -/
def run (s : Surroundings) (o : Options) : Transcript Nat :=
  match carryOut s o with
  | .ok transcript => transcript
  | .error f => failed s o f

/-- Runs the program without options, because the command line asks for help or is wrong. -/
def interrupted : Interruption → Transcript Nat
  | .help full =>
    (Transcript.write .output (if full then Usage.full else Usage.summary)).andThen fun _ => .done 0
  | .version => (Transcript.write .output versionLine).andThen fun _ => .done 0
  | .misuse m => (Transcript.write .error (Usage.complaint m)).andThen fun _ => .done failureCode

/-- Runs the program with a command line. -/
def command (s : Surroundings) (arguments : List Text) : Transcript Nat :=
  match Options.parse arguments with
  | .ok o => run s o
  | .error i => interrupted i

end Program

end CommitGate
