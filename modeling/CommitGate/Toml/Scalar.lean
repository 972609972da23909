import CommitGate.Toml.Value

/-!
# Scalars

The values that are written without quotes or brackets: booleans, integers, floating-point numbers,
dates and times. Each has a form of its own, so a text is at most one of them.
-/

namespace CommitGate.Toml

/-! ## Numbers

The form of a number is looked at first, and its value is a matter of its own: an integer may have
the form of one and still have no value. -/

/-- A digit in the given base. -/
def isDigitOf (base : Nat) (c : Char) : Bool := (hexDigit? c).any (· < base)

/-- Underscores stand one by one between digits. Only the characters next to them are looked at. -/
def isSpaced (isDigit : Char → Bool) (t : Text) : Bool :=
  match t.splitOn '_' with
  | [] | [_] => true
  | groups =>
    groups.all (!·.isEmpty) && groups.tail.all (fun g => g.head?.any isDigit) &&
      groups.dropLast.all fun g => g.getLast?.any isDigit

/-- A text without its underscores. -/
def joined (t : Text) : Text := t.filter (· ≠ '_')

/-- The number that digits stand for. -/
def numberOf (base : Nat) (digits : Text) : Nat :=
  digits.foldl (fun n c => base * n + (hexDigit? c).getD 0) 0

/-- The number that a text stands for, if it is made of digits. -/
def natural? (base : Nat) (t : Text) : Option Nat :=
  if !t.isEmpty && t.all (isDigitOf base) then some (numberOf base t) else none

/-- A sign, if there is one, and what follows: whether it is a minus. -/
def splitSign : Text → Bool × Text
  | '-' :: rest => (true, rest)
  | '+' :: rest => (false, rest)
  | t => (false, t)

/-- A number with its sign. -/
def signed (negative : Bool) (n : Nat) : Int := if negative then -n else n

/-- An integer in the given base, from after the letter that names the base. All its characters are
digits and underscores; without digits it has no value. -/
def basedInteger? (base : Nat) (t : Text) : Option (Option Int) :=
  if (joined t).all (isDigitOf base) && isSpaced (isDigitOf base) t then
    some ((natural? base (joined t)).map (signed false))
  else none

/-- What follows the leading digits of an integer: nothing, or an underscore and no character that
makes it something else. -/
def endsInteger (rest : Text) : Bool :=
  rest.isEmpty || rest.head? = some '_' && !rest.any [' ', '.', 'e', 'E'].contains

/-- A decimal integer, with a sign or without. A zero does not start a longer one. After the first
underscore, characters that are no digits leave it without a value. -/
def decimalInteger? (t : Text) : Option (Option Int) :=
  let (negative, body) := splitSign t
  let startsWell := !body.isEmpty && (body.head? ≠ some '0' || body.length = 1)
  if startsWell && endsInteger (body.dropWhile Char.isDigit) && isSpaced (isDigitOf 16) t then
    some ((natural? 10 (joined body)).map (signed negative))
  else none

/-- An integer. Only decimal ones may have a sign. -/
def integer? : Text → Option (Option Int)
  | '0' :: 'x' :: rest => basedInteger? 16 rest
  | '0' :: 'o' :: rest => basedInteger? 8 rest
  | '0' :: 'b' :: rest => basedInteger? 2 rest
  | t => decimalInteger? t

/-- The digits of a part of a floating-point number, which needs one. -/
def digitRun? (t : Text) : Option Text :=
  let digits := joined t
  if !digits.isEmpty && digits.all Char.isDigit then some digits else none

/-- The digits before the point or the exponent. A zero does not start a longer run. -/
def wholeRun? (t : Text) : Option Text :=
  (digitRun? t).filter fun digits => t.head? ≠ some '0' || digits.length = 1

/-- The exponent of a floating-point number, from after its letter; it may start with zeros. -/
def exponent? (t : Text) : Option Int :=
  let (negative, body) := splitSign t
  (digitRun? body).map fun digits => signed negative (numberOf 10 digits)

/-- A floating-point number with a fraction, an exponent, or both; or one of the special ones. -/
def float? (t : Text) : Option (Option Binary64) :=
  let (negative, body) := splitSign t
  if body = "inf".toList then some (some (.infinite negative))
  else if body = "nan".toList then some (some .nan)
  else if !isSpaced Char.isDigit t then none
  else
    let mantissa := body.takeWhile fun c => c ≠ 'e' && c ≠ 'E'
    let power? := (body.drop mantissa.length).tail?.map exponent?
    let whole := mantissa.takeWhile (· ≠ '.')
    let fraction? := (mantissa.drop whole.length).tail?.map digitRun?
    match wholeRun? whole, fraction?, power? with
    | some w, some (some f), none =>
      some (Binary64.ofDecimal? negative (numberOf 10 (w ++ f)) (-f.length))
    | some w, some (some f), some (some p) =>
      some (Binary64.ofDecimal? negative (numberOf 10 (w ++ f)) (p - f.length))
    | some w, none, some (some p) => some (Binary64.ofDecimal? negative (numberOf 10 w) p)
    | _, _, _ => none

/-! ## Dates and times

Each reader gives what follows the part it reads. -/

/-- A number of exactly two digits, within bounds. -/
def twoDigits? (low high : Nat) : Text → Option (Nat × Text)
  | a :: b :: rest =>
    let n := numberOf 10 [a, b]
    if a.isDigit ∧ b.isDigit ∧ low ≤ n ∧ n ≤ high then some (n, rest) else none
  | _ => none

/-- A given character. -/
def character? (c : Char) : Text → Option Text
  | d :: rest => if d = c then some rest else none
  | [] => none

/-- The number of days of a month. -/
def daysIn (year month : Nat) : Nat :=
  if month = 2 then
    if year % 4 = 0 ∧ (year % 100 ≠ 0 ∨ year % 400 = 0) then 29 else 28
  else if [4, 6, 9, 11].contains month then 30 else 31

/-- A day of the calendar. -/
def date? (t : Text) : Option Text := do
  let (century, t) ← twoDigits? 0 99 t
  let (year, t) ← twoDigits? 0 99 t
  let (month, t) ← twoDigits? 1 12 (← character? '-' t)
  let (_, t) ← twoDigits? 1 (daysIn (100 * century + year) month) (← character? '-' t)
  some t

/-- The fraction of a second, if there is one. -/
def secondFraction? : Text → Option Text
  | '.' :: rest =>
    if rest.head?.any Char.isDigit then some (rest.dropWhile Char.isDigit) else none
  | t => some t

/-- A time of day. Seconds may be left out, and there may be a leap second. -/
def time? (t : Text) : Option Text := do
  let (_, t) ← twoDigits? 0 23 t
  let (_, t) ← twoDigits? 0 59 (← character? ':' t)
  match character? ':' t with
  | none => some t
  | some t =>
    let (_, t) ← twoDigits? 0 60 t
    secondFraction? t

/-- A distance from universal time. -/
def isOffset : Text → Bool
  | ['Z'] | ['z'] => true
  | c :: t =>
    (c = '+' || c = '-') && ((do
      let (_, t) ← twoDigits? 0 23 t
      let (_, t) ← twoDigits? 0 59 (← character? ':' t)
      some t) = some [])
  | [] => false

/-- A date, a time, or a date with a time; only the last may have an offset. -/
def isMoment (t : Text) : Bool :=
  match date? t with
  | some [] => true
  | some (c :: rest) =>
    ['T', 't', ' '].contains c && (time? rest).any fun r => r.isEmpty || isOffset r
  | none => time? t = some []

/-! ## All scalars -/

/-- The scalar that is written so. -/
def scalar? (t : Text) : Option Value :=
  if t = "true".toList then some (.boolean true)
  else if t = "false".toList then some (.boolean false)
  else
    match integer? t, float? t with
    | some n, _ => some (.integer n)
    | none, some x => some (.float x)
    | none, none => if isMoment t then some (.moment t) else none

end CommitGate.Toml
