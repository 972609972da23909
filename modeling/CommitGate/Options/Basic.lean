import CommitGate.Reporter
import CommitGate.Settings.Load

/-!
# Options

What the command line can say, and the ways in which it can be wrong.
-/

namespace CommitGate

/-- When text is coloured. -/
inductive ColorChoice where
  /-- If it goes to a terminal. -/
  | auto
  /-- In any case. -/
  | always
  /-- In no case. -/
  | never
  deriving DecidableEq, Repr

namespace ColorChoice

/-- The name of a choice. -/
def name : ColorChoice → Text
  | auto => "auto".toList
  | always => "always".toList
  | never => "never".toList

/-- The choice with the given name. -/
def ofName? (t : Text) : Option ColorChoice := [auto, always, never].find? (·.name = t)

end ColorChoice

/-- What the command line asks for. -/
structure Options where
  /-- Whether the merge base is ignored. -/
  full : Bool := false
  /-- The greatest number of commits to review. -/
  limit : Option Nat := none
  /-- The reference whose history is shared. -/
  base : Option Text := none
  /-- The file with a single message to review, instead of the history. -/
  messageFile : Option Text := none
  /-- The settings file. -/
  config : Option Text := none
  /-- Whether settings files are ignored. -/
  noConfig : Bool := false
  /-- The form of reports. -/
  format : Format := .text
  /-- When text is coloured. -/
  color : ColorChoice := .auto
  /-- How much detail is shown. -/
  verbosity : Nat := 0
  /-- Whether progress is left out. -/
  quiet : Bool := false
  deriving DecidableEq, Repr

/-- The options that take no value. -/
inductive Flag where
  /-- Ignore the merge base. -/
  | full
  /-- Ignore settings files. -/
  | noConfig
  /-- Show more detail. -/
  | verbose
  /-- Leave out progress. -/
  | quiet
  /-- Show the help. -/
  | help
  /-- Show the version. -/
  | version
  deriving DecidableEq, Repr

/-- The options that take a value, and the limit, which stands by itself. -/
inductive Setting where
  /-- The greatest number of commits. -/
  | limit
  /-- The reference whose history is shared. -/
  | base
  /-- The file with a single message. -/
  | messageFile
  /-- The settings file. -/
  | config
  /-- The form of reports. -/
  | format
  /-- When text is coloured. -/
  | color
  deriving DecidableEq, Repr

/-- An option of either kind. -/
inductive OptionName where
  /-- One without a value. -/
  | flag (f : Flag)
  /-- One with a value. -/
  | setting (s : Setting)
  deriving DecidableEq, Repr

namespace OptionName

/-- All options. -/
def all : List OptionName :=
  [.flag .full, .setting .limit, .setting .base, .setting .messageFile, .setting .config,
    .flag .noConfig, .setting .format, .setting .color, .flag .verbose, .flag .quiet, .flag .help,
    .flag .version]

/-- The word that follows two dashes; the limit has none. -/
def word? : OptionName → Option Text
  | flag .full => some "full".toList
  | flag .noConfig => some "no-config".toList
  | flag .verbose => some "verbose".toList
  | flag .quiet => some "quiet".toList
  | flag .help => some "help".toList
  | flag .version => some "version".toList
  | setting .limit => none
  | setting .base => some "base".toList
  | setting .messageFile => some "message-file".toList
  | setting .config => some "config".toList
  | setting .format => some "format".toList
  | setting .color => some "color".toList

/-- The letter that follows a single dash. -/
def letter? : OptionName → Option Char
  | flag .verbose => some 'v'
  | flag .quiet => some 'q'
  | flag .help => some 'h'
  | flag .version => some 'V'
  | setting .config => some 'c'
  | setting .format => some 'f'
  | flag .full | flag .noConfig => none
  | setting .limit | setting .base | setting .messageFile | setting .color => none

/-- The option with the given word. -/
def ofWord? (t : Text) : Option OptionName := all.find? (·.word? = some t)

/-- The option with the given letter. -/
def ofLetter? (c : Char) : Option OptionName := all.find? (·.letter? = some c)

/-- What stands for the value of an option in texts about it. -/
def placeholder? : OptionName → Option Text
  | flag _ => none
  | setting .limit => some "LIMIT".toList
  | setting .base => some "REF".toList
  | setting .messageFile => some "PATH".toList
  | setting .config => some "CONFIG".toList
  | setting .format => some "FORMAT".toList
  | setting .color => some "COLOR".toList

/-- An option in texts about it. -/
def shown (o : OptionName) : Text :=
  match o.word?, o.placeholder? with
  | some word, none => "--".toList ++ word
  | some word, some value => "--".toList ++ word ++ " <".toList ++ value ++ ['>']
  | none, some value => '[' :: value ++ [']']
  | none, none => []

end OptionName

/-- What is wrong with a command line. -/
inductive Misuse where
  /-- An option has no value, or an empty one where that says nothing. -/
  | missingValue (s : Setting)
  /-- A value is not one of the few that an option knows. -/
  | unknownChoice (s : Setting) (value : Text)
  /-- A value cannot be read. -/
  | unreadableValue (s : Setting) (value : Text)
  /-- An argument that means nothing. -/
  | unknownArgument (argument : Text)
  /-- Two options that exclude each other; an option excludes itself. -/
  | conflict (first second : OptionName)
  /-- A value for an option that takes none. -/
  | needlessValue (f : Flag) (value : Text)
  deriving DecidableEq, Repr

/-- What is said about a misuse. -/
def Misuse.message : Misuse → Text
  | missingValue s =>
    "a value is required for '".toList ++ (OptionName.setting s).shown ++
      "' but none was supplied".toList
  | unknownChoice s value | unreadableValue s value =>
    "invalid value '".toList ++ value ++ "' for '".toList ++ (OptionName.setting s).shown ++ ['\'']
  | unknownArgument argument => "unexpected argument '".toList ++ argument ++ "' found".toList
  | conflict first second =>
    if first = second then
      "the argument '".toList ++ first.shown ++ "' cannot be used multiple times".toList
    else
      "the argument '".toList ++ first.shown ++ "' cannot be used with '".toList ++ second.shown ++
        ['\'']
  | needlessValue f value =>
    "unexpected value '".toList ++ value ++ "' for '".toList ++ (OptionName.flag f).shown ++
      "' found; no more were expected".toList

/-- Why a command line gives no options. -/
inductive Interruption where
  /-- It asks for the help, at full length or as a summary. -/
  | help (full : Bool)
  /-- It asks for the version. -/
  | version
  /-- It is wrong. -/
  | misuse (m : Misuse)
  deriving DecidableEq, Repr

end CommitGate
