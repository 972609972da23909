import CommitGate.Options.Basic

/-!
# Help

The help comes at two lengths, both made from the same table of options: a summary with one line an
option, and the full help with the explanations below the options.
-/

namespace CommitGate

/-- The name of the program. -/
def programName : Text := "commit-guard".toList

/-- The version of the program. -/
def programVersion : Text := "0.1.0".toList

/-- The line that tells name and version. -/
def versionLine : Text := Text.line (programName ++ ' ' :: programVersion)

namespace Usage

/-- What an option is for. -/
def purpose : OptionName → Text
  | .flag .full => "Check up to <LIMIT> commits regardless of the merge-base".toList
  | .setting .limit =>
    "Maximum number of commits to check [default: 500, or \x60limit\x60 from config]".toList
  | .setting .base =>
    "Reference to compute the merge-base against (overrides \x60base_ref\x60 from config)".toList
  | .setting .messageFile =>
    "Check a single message read from a file ('-' for stdin) instead of walking history".toList
  | .setting .config => "Path to configuration file".toList
  | .flag .noConfig => "Skip loading configuration file".toList
  | .setting .format => "Output format [possible values: text, json]".toList
  | .setting .color => "Control color output".toList
  | .flag .verbose => "Increase output verbosity".toList
  | .flag .quiet => "Suppress progress output".toList
  | .flag .help => "Print help".toList
  | .flag .version => "Print version".toList

/-- When a colour choice applies. -/
def choicePurpose : ColorChoice → Text
  | .auto => "Auto-detect terminal capability".toList
  | .always => "Always use colors".toList
  | .never => "Never use colors".toList

/-- What the summary adds to the purpose of an option. -/
def summaryAddition : OptionName → Text
  | .setting .format => " [default: text]".toList
  | .setting .color => " [default: auto] [possible values: auto, always, never]".toList
  | .flag .help => " (see more with '--help')".toList
  | _ => []

/-- What the full help adds to the purpose of an option, line by line. -/
def fullAddition : OptionName → List Text
  | .setting .format => [[], "[default: text]".toList]
  | .setting .color =>
    [[], "Possible values:".toList] ++
      [ColorChoice.auto, .always, .never].map (fun c =>
        "- ".toList ++ c.name ++ ':' :: Text.spaces (7 - c.name.length) ++ choicePurpose c) ++
      [[], "[default: auto]".toList]
  | _ => []

/-- The ways to write an option. -/
def forms (o : OptionName) : Text :=
  (match o.letter?, o.word? with
    | some c, _ => "  -".toList ++ c :: ", ".toList
    | none, some _ => Text.spaces 6
    | none, none => Text.spaces 2) ++
  o.shown ++ if o = .flag .verbose then "...".toList else []

/-- The options that have a word, which is all but the limit. -/
def worded : List OptionName := OptionName.all.filter (·.word?.isSome)

/-- How to call the program. -/
def synopsis : Text := "Usage: ".toList ++ programName ++ " [OPTIONS] [LIMIT]".toList

/-- An option in the summary. -/
def summaryLine (width : Nat) (o : OptionName) : Text :=
  forms o ++ Text.spaces (width - (forms o).length) ++ "  ".toList ++ purpose o ++ summaryAddition o

/-- The summary. -/
def summary : Text :=
  ([ "Commit message guard - enforce commit message style".toList, [], synopsis, [],
      "Arguments:".toList, summaryLine 0 (.setting .limit), [], "Options:".toList ] ++
    worded.map (summaryLine 27)).flatMap Text.line

/-- An option in the full help. -/
def fullLines (o : OptionName) : List Text :=
  let told := if o = .flag .help then " (see a summary with '-h')".toList else []
  forms o :: ((purpose o ++ told) :: fullAddition o).map fun l => Text.spaces 10 ++ l

/-- The full help. -/
def full : Text :=
  ([ "Checks the commit messages on the current branch, walking back from HEAD ".toList ++
        "until the merge-base with the base reference.".toList,
      [], "Exit codes:".toList, "  0 - All checks passed".toList,
      "  N - Number of problems in the first failing commit message (at most 255)".toList,
      "  2 - Configuration or runtime error".toList, [],
      "Any non-zero exit code means failure.".toList, [], synopsis, [], "Arguments:".toList ] ++
    fullLines (.setting .limit) ++ [[], "Options:".toList] ++
    [[]].intercalate (worded.map fullLines)).flatMap Text.line

/-- What is shown about a misuse. -/
def complaint (m : Misuse) : Text :=
  (["error: ".toList ++ m.message, [], synopsis, [],
    "For more information, try '--help'.".toList]).flatMap Text.line

end Usage

end CommitGate
