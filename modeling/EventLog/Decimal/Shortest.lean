import EventLog.Decimal.Binary64
import EventLog.Text.Digits
import EventLog.Text.Spec

/-!
The fewest decimal digits that read back as a double, and a double rounded to a number of places.
Both work in whole numbers: a double is a fraction, and a decimal `d * 10 ^ k` lies in the interval
of the numbers that round to it or does not.
-/
namespace EventLog.Decimal

/-- `digits * 10 ^ exponent`. -/
structure Scaled where
  digits : Nat
  exponent : Int
  deriving DecidableEq, Repr

/-- A positive double as a fraction, with the ends of the interval that rounds to it over the same
denominator. The ends belong to the interval iff `closed`. -/
structure Interval where
  low : Nat
  value : Nat
  high : Nat
  denominator : Nat
  closed : Bool

/-- The interval around `m * 2 ^ q`. Below a power of two the neighbour is half as far. -/
def interval (m : Nat) (q : Int) : Interval :=
  let below := if m = Nat.pow 2 52 ∧ q > -1074 then 1 else 2
  let scale := Nat.pow 2 (q - 2).toNat
  { low := (4 * m - below) * scale
    value := 4 * m * scale
    high := (4 * m + 2) * scale
    denominator := Nat.pow 2 (2 - q).toNat
    closed := m % 2 == 0 }

/-- The least `t` from `t` on with `value * 10 ^ t ≥ denominator`, sought for `fuel` steps. -/
def leadingPlace (denominator : Nat) : (fuel : Nat) → (value t : Nat) → Nat
  | 0, _, t => t
  | fuel + 1, value, t =>
    if value ≥ denominator then t else leadingPlace denominator fuel (value * 10) (t + 1)

/-- The power of ten of the first digit of `value / denominator`. -/
def leadingExponent (value denominator : Nat) : Int :=
  if value ≥ denominator then ((Text.decimal (value / denominator)).length : Int) - 1
  else -(leadingPlace denominator 400 value 0 : Int)

/-- The decimal on the grid of `10 ^ k` that lies in the interval, the nearer of two, the upper one
of two as near. -/
def onGrid? (i : Interval) (k : Int) : Option Scaled :=
  let up := Nat.pow 10 (-k).toNat
  let unit := i.denominator * Nat.pow 10 k.toNat
  let value := i.value * up
  let inside (d : Nat) : Bool :=
    if i.closed then i.low * up ≤ d * unit && d * unit ≤ i.high * up
    else i.low * up < d * unit && d * unit < i.high * up
  let d := value / unit
  let upperFirst : Bool := (2 * d + 1) * unit ≤ 2 * value
  let first := if upperFirst then d + 1 else d
  let second := if upperFirst then d else d + 1
  if inside first then some ⟨first, k⟩
  else if inside second then some ⟨second, k⟩
  else none

/-- The decimal with the fewest digits that rounds to `m * 2 ^ q`, for a positive `m`. Seventeen
digits always do. -/
def shortest (m : Nat) (q : Int) : Scaled :=
  let i := interval m q
  let top := leadingExponent i.value i.denominator
  ((List.range 18).findSome? fun (n : Nat) => onGrid? i (top - n)).getD ⟨0, 0⟩

/-- A decimal without zeros at its end, looked for at most `fuel` times. -/
def trimZeros : (fuel : Nat) → Scaled → Scaled
  | 0, s => s
  | fuel + 1, s =>
    if s.digits % 10 = 0 ∧ s.digits ≠ 0 then trimZeros fuel ⟨s.digits / 10, s.exponent + 1⟩ else s

/-- Digits with `places` of them after the point; the point is left out if none are. -/
def pointed (places : Nat) (digits : List Char) : List Char :=
  let full := List.replicate (places + 1 - digits.length) '0' ++ digits
  let whole := full.take (full.length - places)
  if places = 0 then whole else whole ++ '.' :: full.drop (full.length - places)

def positional (s : Scaled) : List Char :=
  if s.exponent ≥ 0 then Text.decimal s.digits ++ List.replicate s.exponent.toNat '0'
  else pointed (-s.exponent).toNat (Text.decimal s.digits)

/-- `numerator / denominator` to the nearest whole number, a half to the even one. -/
def roundHalfEven (numerator denominator : Nat) : Nat :=
  let d := numerator / denominator
  let r := numerator % denominator
  if 2 * r > denominator ∨ (2 * r = denominator ∧ d % 2 = 1) then d + 1 else d

/-- `m * 2 ^ q` in positional notation, with the fewest digits that read back. -/
def shortestText (m : Nat) (q : Int) : List Char :=
  if m = 0 then ['0'] else positional (trimZeros 20 (shortest m q))

def fixedText (places m : Nat) (q : Int) : List Char :=
  pointed places
    (Text.decimal
      (roundHalfEven (m * Nat.pow 2 q.toNat * Nat.pow 10 places) (Nat.pow 2 (-q).toNat)))

end EventLog.Decimal

namespace EventLog.Binary64

/-- The sign and the digits of a double under a layout. What is no number has no sign. -/
def parts (spec : Spec) (x : Binary64) : List Char × List Char :=
  match x.magnitude with
  | .nan => ([], ['N', 'a', 'N'])
  | .infinite negative => (spec.sign negative, ['i', 'n', 'f'])
  | .finite negative m q =>
    (spec.sign negative, match spec.precision with
      | some places => Decimal.fixedText places m q
      | none => Decimal.shortestText m q)

def display (spec : Spec) (x : Binary64) : List Char :=
  let (sign, digits) := x.parts spec
  spec.layNumber sign digits

end EventLog.Binary64
