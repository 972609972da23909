import CommitGate.Text.Basic

/-!
# Binary floating point

The numbers of the 64-bit binary format, as far as reading and writing decimals needs them. Reading
rounds to the nearest number of the format, a tie to the even significand. Writing takes the fewest
digits that read back as the same number, and of those the nearest to it, a tie away from zero; the
notation is always positional.

Powers are written with `Nat.pow`, which means the same whatever algebra is imported.
-/

namespace CommitGate

/-- A number of the 64-bit binary format. -/
inductive Binary64 where
  /-- The number `significand * 2 ^ exponent`, or its negative. The significand is less than
  `2 ^ 53`. -/
  | finite (negative : Bool) (significand : Nat) (exponent : Int)
  /-- An infinity. -/
  | infinite (negative : Bool)
  /-- What is not a number. -/
  | nan
  deriving DecidableEq, Repr

namespace Binary64

/-- The exponent of the least positive number. -/
def leastExponent : Int := -1074

/-- The exponent of the greatest numbers. -/
def greatestExponent : Int := 971

/-- Rounds a quotient to the nearest natural number, a tie to the even one. -/
def roundQuotient (numerator denominator : Nat) : Nat :=
  let floor := numerator / denominator
  let twice := 2 * (numerator % denominator)
  if twice < denominator then floor
  else if denominator < twice then floor + 1
  else floor + floor % 2

/-- The exponent at which a positive quotient has a significand of 53 bits, or the least one. -/
def exponentFor (numerator denominator : Nat) : Int :=
  let top : Int := (numerator.log2 : Int) - denominator.log2
  let reached := denominator * Nat.pow 2 top.toNat ≤ numerator * Nat.pow 2 (-top).toNat
  max (if reached then top - 52 else top - 53) leastExponent

/-- The number of the format that is nearest to a positive quotient, if the quotient is in range. -/
def nearest? (negative : Bool) (numerator denominator : Nat) : Option Binary64 :=
  let exponent := exponentFor numerator denominator
  let significand :=
    roundQuotient (numerator * Nat.pow 2 (-exponent).toNat) (denominator * Nat.pow 2 exponent.toNat)
  let (significand, exponent) :=
    if significand = Nat.pow 2 53 then (Nat.pow 2 52, exponent + 1) else (significand, exponent)
  if exponent ≤ greatestExponent then some (finite negative significand exponent) else none

/-- Reads the decimal `digits * 10 ^ power`. A number too large for the format has none. Far outside
the format's range the power of ten is not computed. -/
def ofDecimal? (negative : Bool) (digits : Nat) (power : Int) : Option Binary64 :=
  let magnitude := (Nat.toDigits 10 digits).length + power
  if digits = 0 ∨ magnitude < -330 then some (finite negative 0 leastExponent)
  else if 310 < magnitude then none
  else nearest? negative (digits * Nat.pow 10 power.toNat) (Nat.pow 10 (-power).toNat)

/-- The multiple of `10 ^ power` that reads back as the positive number `significand * 2 ^ exponent`
and is nearest to it, as a factor of the power, if there is one. Of two that are equally near it is
the greater.

The numbers that read back lie between the two midpoints to the neighbouring numbers of the format,
and a midpoint reads back if the significand is even. In quarters of a unit in the last place the
number is `4 * significand`; the upper midpoint is two quarters away, and so is the lower one,
except below a power of two, where the neighbour is half as far. -/
def onGrid? (significand : Nat) (exponent power : Int) : Option Nat :=
  let quarter := exponent - 2
  let unit := Nat.pow 10 power.toNat * Nat.pow 2 (-quarter).toNat
  let scale := Nat.pow 2 quarter.toNat * Nat.pow 10 (-power).toNat
  let below := if significand = Nat.pow 2 52 ∧ leastExponent < exponent then 1 else 2
  let value := 4 * significand * scale
  let low := (4 * significand - below) * scale
  let high := (4 * significand + 2) * scale
  let readsBack := fun n : Nat => 0 < n ∧
    if significand % 2 = 0 then low ≤ n * unit ∧ n * unit ≤ high
    else low < n * unit ∧ n * unit < high
  let floor := value / unit
  let candidates := [floor, floor + 1].filter (readsBack ·)
  match candidates with
  | [a, b] => if 2 * value < (a + b) * unit then some a else some b
  | [a] => some a
  | _ => none

/-- The fewest digits that read back as `significand * 2 ^ exponent`, with the power of ten they are
counted in: the coarsest grid that has a point to offer. Zero is `0 * 10 ^ 0`. -/
def shortest (significand : Nat) (exponent : Int) : Nat × Int :=
  let powers := if significand = 0 then [] else (List.range 660).map fun n : Nat => (309 : Int) - n
  (powers.findSome? fun p => (onGrid? significand exponent p).map (·, p)).getD (0, 0)

/-- The decimal `digits * 10 ^ power` in positional notation, with at least one digit on either side
of the point. -/
def positional (digits : Nat) (power : Int) : Text :=
  let shown := Nat.toDigits 10 digits
  let places := (-power).toNat
  if places = 0 then shown ++ List.replicate power.toNat '0' ++ ['.', '0']
  else
    let padded := List.replicate (places + 1 - shown.length) '0' ++ shown
    padded.take (padded.length - places) ++ '.' :: padded.drop (padded.length - places)

/-- The written form of a number. -/
def text : Binary64 → Text
  | finite negative significand exponent =>
    let (digits, power) := shortest significand exponent
    (if negative then ['-'] else []) ++ positional digits power
  | infinite negative => (if negative then ['-'] else []) ++ "inf".toList
  | nan => "NaN".toList

end Binary64

end CommitGate
