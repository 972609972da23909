import CommitGate.Options.Basic

/-!
# Reading the command line

Arguments are read from left to right. The value of an option may be attached to it or be the next
argument; in the second case it is looked at only when the next option or limit has been recognised,
or at the end, so that an unknown argument is noticed before the bad value in front of it. Options
that exclude each other are noticed last.
-/

namespace CommitGate.Options

/-! ## Arguments -/

/-- What an argument looks like. -/
inductive Argument where
  /-- Two dashes: all that follows stands by itself. -/
  | separator
  /-- A word after two dashes, with a value if there is an equals sign. -/
  | word (name : Text) (value : Option Text)
  /-- Letters after one dash. -/
  | letters (run : Text)
  /-- Anything else. -/
  | plain (t : Text)

/-- Tells what an argument looks like. A single dash is a value like any other. -/
def Argument.of : Text → Argument
  | ['-', '-'] => .separator
  | '-' :: '-' :: rest =>
    let name := rest.takeWhile (· ≠ '=')
    .word name (rest.drop name.length).tail?
  | ['-'] => .plain ['-']
  | '-' :: rest => .letters rest
  | t => .plain t

/-! ## Values -/

/-- A number of commits: decimal digits that may follow a plus sign, up to the greatest limit. -/
def limit? (t : Text) : Option Nat :=
  let digits : Text := match t with
    | '+' :: rest => rest
    | _ => t
  let n := digits.foldl (fun n c => 10 * n + (c.toNat - '0'.toNat)) 0
  if digits ≠ [] ∧ digits.all Char.isDigit ∧ n ≤ Settings.maxLimit then some n else none

/-- A path, which is not empty. -/
def path (s : Setting) (t : Text) : Except Misuse Text :=
  if t = [] then .error (.missingValue s) else .ok t

/-- Options with the value of a setting read and put in. -/
def set (o : Options) (s : Setting) (t : Text) : Except Misuse Options :=
  match s with
  | .limit =>
    match limit? t with
    | some n => .ok { o with limit := some n }
    | none => .error (.unreadableValue s t)
  | .base => .ok { o with base := some t }
  | .messageFile => (path s t).map fun p => { o with messageFile := some p }
  | .config => (path s t).map fun p => { o with config := some p }
  | .format =>
    match Format.ofName? t with
    | some f => .ok { o with format := f }
    | none => .error (.unreadableValue s t)
  | .color =>
    match ColorChoice.ofName? t with
    | some c => .ok { o with color := c }
    | none => .error (.unknownChoice s t)

/-! ## The state while reading -/

/-- A setting that has been named and waits to be looked at. -/
structure Pending where
  /-- The setting. -/
  setting : Setting
  /-- Its value, once it has come. -/
  value : Option Text
  deriving DecidableEq

/-- What has been read so far. -/
structure Draft where
  /-- The options so far. -/
  options : Options := {}
  /-- The options that have been given. -/
  given : List OptionName := []
  /-- The setting that waits to be looked at. -/
  pending : Option Pending := none

/-- The greatest verbosity. -/
def maxVerbosity : Nat := 255

namespace Draft

/-- Notes that an option is given, which it can be once. -/
def give (d : Draft) (o : OptionName) : Except Interruption Draft :=
  if o ∈ d.given then .error (.misuse (.conflict o o)) else .ok { d with given := o :: d.given }

/-- Looks at a value of a setting. -/
def accept (d : Draft) (s : Setting) (t : Text) : Except Interruption Draft := do
  let d ← d.give (.setting s)
  let options ← (d.options.set s t).mapError .misuse
  .ok { d with options }

/-- Looks at the setting that waits. -/
def settle (d : Draft) : Except Interruption Draft :=
  match d.pending with
  | none => .ok d
  | some ⟨s, none⟩ => .error (.misuse (.missingValue s))
  | some ⟨s, some t⟩ => { d with pending := none }.accept s t

/-- A flag has been recognised. Verbosity adds up, and help or version end the reading. -/
def raise (d : Draft) (f : Flag) (word : Bool) : Except Interruption Draft := do
  let d ← d.settle
  match f with
  | .help => .error (.help word)
  | .version => .error .version
  | .verbose =>
    .ok { d with options.verbosity := min (d.options.verbosity + 1) maxVerbosity }
  | .full => .ok { ← d.give (.flag f) with options.full := true }
  | .noConfig => .ok { ← d.give (.flag f) with options.noConfig := true }
  | .quiet => .ok { ← d.give (.flag f) with options.quiet := true }

/-- A setting has been recognised, with its value or without. -/
def name (d : Draft) (s : Setting) (value : Option Text) : Except Interruption Draft := do
  let d ← d.settle
  match value with
  | some t => d.accept s t
  | none => .ok { d with pending := some ⟨s, none⟩ }

/-- An argument that stands by itself is the limit, and there is only one. -/
def standAlone (d : Draft) (t : Text) : Except Interruption Draft :=
  if .setting .limit ∈ d.given ∨ d.pending.any (·.setting = .limit) then
    .error (.misuse (.unknownArgument t))
  else do .ok { ← d.settle with pending := some ⟨.limit, some t⟩ }

/-- An argument that is no option is the value of the setting before it, if that has none. -/
def plain (d : Draft) (t : Text) : Except Interruption Draft :=
  match d.pending with
  | some ⟨s, none⟩ => .ok { d with pending := some ⟨s, some t⟩ }
  | _ => d.standAlone t

/-- An option written with its word. -/
def word (d : Draft) (name : Text) (value : Option Text) : Except Interruption Draft :=
  match OptionName.ofWord? name, value with
  | none, _ => .error (.misuse (.unknownArgument ("--".toList ++ name)))
  | some (.flag f), some t => .error (.misuse (.needlessValue f t))
  | some (.flag f), none => d.raise f true
  | some (.setting s), _ => d.name s value

/-- Options written with their letters. What follows the letter of a setting is its value; an equals
sign may stand between. -/
def letters (d : Draft) : Text → Except Interruption Draft
  | [] => .ok d
  | c :: rest =>
    match OptionName.ofLetter? c with
    | none => .error (.misuse (.unknownArgument ['-', c]))
    | some (.flag f) => do (← d.raise f false).letters rest
    | some (.setting s) =>
      d.name s <| match rest with
        | [] => none
        | '=' :: t => some t
        | t => some t

end Draft

/-! ## Command lines -/

/-- Reads the arguments that are left. -/
def readFrom (d : Draft) : List Text → Except Interruption Draft
  | [] => d.settle
  | t :: rest =>
    match Argument.of t with
    | .separator => do (← rest.foldlM Draft.standAlone d).settle
    | .word name value => do readFrom (← d.word name value) rest
    | .letters run => do readFrom (← d.letters run) rest
    | .plain t => do readFrom (← d.plain t) rest

/-- The pairs of options that exclude each other. -/
def exclusions : List (OptionName × OptionName) :=
  [(.setting .messageFile, .flag .full), (.setting .messageFile, .setting .limit),
    (.setting .messageFile, .setting .base), (.flag .noConfig, .setting .config)]

/-- The options that a command line gives. -/
def parse (arguments : List Text) : Except Interruption Options := do
  let d ← readFrom {} arguments
  match exclusions.find? fun (a, b) => a ∈ d.given ∧ b ∈ d.given with
  | some (a, b) => .error (.misuse (.conflict a b))
  | none => .ok d.options

end CommitGate.Options
