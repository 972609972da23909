import CommitGate.FileTree
import CommitGate.Program
import CommitGate.Storage.Reading

/-!
# The command

Reads what a run needs from the outside, lets the program decide, and does what its transcript says.
-/

namespace CommitGate.Command

/-! ## Reading -/

/-- Why the system refuses to read a file. -/
def readFailure (e : IO.Error) : ReadFailure :=
  let refused (code : UInt32) (words : String) : ReadFailure :=
    match code.toNat with
    | 2 => .missing
    | 20 => .notDirectory
    | 21 => .isDirectory
    | 36 => .nameTooLong
    | n => .refused (words.toList ++ " (os error ".toList ++ Text.ofNat n ++ [')'])
  match e with
  | .noFileOrDirectory _ code words | .interrupted _ code words => refused code words
  | .inappropriateType _ code words | .invalidArgument _ code words | .alreadyExists _ code words
  | .permissionDenied _ code words | .resourceExhausted _ code words | .noSuchThing _ code words =>
    refused code words
  | .otherError code words | .resourceBusy code words | .resourceVanished code words
  | .unsupportedOperation code words | .hardwareFault code words | .illegalOperation code words
  | .unsatisfiedConstraints code words | .protocolError code words | .timeExpired code words =>
    refused code words
  | .unexpectedEof => .refused "unexpected end of file".toList
  | .userError words => .refused words.toList

/-- The bytes of a file, or why they cannot be had. -/
def read (path : Text) : IO (Except ReadFailure ByteArray) := do
  try return .ok (← (← IO.FS.Handle.mk (String.ofList path) .read).readBinToEnd)
  catch e => return .error (readFailure e)

/-- The text of a file, if there is one. -/
def text? (path : Text) : IO (Option Text) := do
  return (← read path).toOption.bind fun data => Utf8.decode? data.toList

/-- The names in a directory; none if it cannot be read. -/
def namesIn (path : Text) : IO (List Text) := do
  try
    let entries ← (← IO.FS.realPath (String.ofList path)).readDir
    return entries.toList.map (·.fileName.toList)
  catch _ => return []

/-- All that is left of a stream. -/
partial def readAll (stream : IO.FS.Stream) (before : ByteArray) : IO ByteArray := do
  let more ← stream.read 65536
  if more.isEmpty then return before else readAll stream (before ++ more)

/-! ## The repository -/

/-- The files at a path and below it, seen from a directory. -/
partial def filesBelow (directory path : Text) : IO (List (Text × ByteArray)) := do
  let place := Files.join directory path
  match ← read place with
  | .ok data => return [(path, data)]
  | .error _ =>
    let below ← (← namesIn place).mapM fun name => filesBelow directory (Files.join path name)
    return below.flatten

/-- The files with records of a repository. A file may name further directories with records. -/
def recordFiles : (depth : Nat) → (directory : Text) → IO (List (Text × ByteArray))
  | 0, _ => return []
  | depth + 1, directory => do
    let own := (← namesIn directory).filter (· ≠ "info".toList)
    let files ← own.mapM (filesBelow directory)
    let others := ((← text? (Files.join directory "info/alternates".toList)).getD []).splitOn '\n'
    let further ← (others.filter (· ≠ [])).mapM fun other =>
      recordFiles depth (Files.resolve directory other)
    return files.flatten ++ further.flatten

/-- The files that are right at the top of a repository, and its references. -/
def topFiles (top : Text) : IO (List (Text × ByteArray)) := do
  let mut files ← filesBelow top "refs".toList
  for name in ← namesIn top do
    if let .ok data ← read (Files.join top name) then files := (name, data) :: files
  return files

/-- The greatest number of directories with records, each named by the one before. -/
def deepestSharing : Nat := 5

/-- The store of a repository with the given top. -/
def storeAt (top : Text) : IO Storage.Store := do
  let shared :=
    match ← text? (Files.join top "commondir".toList) with
    | some place => Files.resolve top place.trimEnd
    | none => top
  let records ← recordFiles deepestSharing (Files.join shared "objects".toList)
  let named := records.map fun (path, data) => (Storage.Store.recordsDirectory ++ path, data)
  let own ← if shared = top then pure [] else topFiles top
  return .ofFiles (named ++ (← topFiles shared) ++ own)

/-- The top of the repository that is right at a directory, if there is one. -/
def topAt? (directory : Text) : IO (Option Text) := do
  let inside := Files.join directory ".git".toList
  let named := ((← text? inside).bind Storage.directoryIn?).map (Files.resolve directory)
  for top in inside :: named.toList ++ [directory] do
    if Storage.Store.isTop (← namesIn top) then return some top
  return none

/-- The repository of the working directory, as far as a comparison with the base needs it. -/
def repositoryFor? (directory base : Text) : IO (Option Repository) := do
  let place := (FileTree.names directory).filter (· ≠ [])
  let mut tops : List (List Text × Text) := []
  for n in List.range (place.length + 1) do
    if let some top ← topAt? (FileTree.pathOf (place.take n)) then
      tops := (place.take n, top) :: tops
  match discover (List.lookup · tops) place with
  | .ok top => return (← storeAt top).repository? base
  | .error _ => return none

/-! ## Running -/

/-- The working directory, if it can be told. -/
def workingDirectory? : IO (Option Text) := do
  try return some (← IO.currentDir).toString.toList catch _ => return none

/-- Reads what a run with the given options needs. -/
def surroundings (o : Options) : IO Surroundings := do
  let directory ← workingDirectory?
  let found ← (Program.paths directory o).mapM fun path => do
    return (path, (← read path).map (·.toList))
  let input ←
    if o.messageFile.any Program.isInput then readAll (← IO.getStdin) .empty else pure .empty
  let terminal ← (← IO.getStderr).isTty
  let s : Surroundings :=
    { files := .ofList directory found
      input := input.toList
      repository := none
      terminal := terminal && (← IO.getEnv "NO_COLOR").isNone }
  match directory, o.messageFile, Program.settingsFor s o with
  | some directory, none, .ok settings =>
    return { s with repository := ← repositoryFor? directory settings.baseRef }
  | _, _, _ => return s

/-- The exit code when a report cannot be laid out. -/
def refusalCode : UInt32 := 101

/-- Writes a text to a stream. -/
def write (stream : Stream) (t : Text) : IO Unit := do
  let target ←
    match stream with
    | .error => IO.getStderr
    | .output => IO.getStdout
  target.putStr (String.ofList t)
  target.flush

/-- Does what a transcript says. -/
def perform : Transcript Nat → IO UInt32
  | .done code => return code.toUInt32
  | .refused e => do
    write .error e.message.line
    return refusalCode
  | .step (.write stream t) rest => do
    write stream t
    perform rest
  | .step _ rest => perform rest

/-- Runs the program with options. A stream that fails ends the run; the notice of that may be
lost. -/
def run (o : Options) : IO UInt32 := do
  let s ← surroundings o
  try perform (Program.run s o)
  catch e =>
    try perform (Program.failed s o (.stream (readFailure e).message))
    catch _ => return Program.failureCode.toUInt32

end CommitGate.Command

open CommitGate in
/-- Runs the program with the arguments of the command line. -/
def main (arguments : List String) : IO UInt32 :=
  match Options.parse (arguments.map String.toList) with
  | .ok o => Command.run o
  | .error i => Command.perform (Program.interrupted i)
