/-!
The doubles of IEEE 754 by their bits, read as a sign, a whole number and a power of two.
-/
namespace EventLog

structure Binary64 where
  bits : UInt64
  deriving DecidableEq, Repr

/-- What the bits of a double stand for; `finite negative m q` is `m * 2 ^ q` with its sign. -/
inductive Magnitude where
  | nan
  | infinite (negative : Bool)
  | finite (negative : Bool) (m : Nat) (q : Int)
  deriving DecidableEq, Repr

namespace Binary64

private def field (n shift width : Nat) : Nat := n / Nat.pow 2 shift % Nat.pow 2 width

def magnitude (x : Binary64) : Magnitude :=
  let n := x.bits.toNat
  let negative := field n 63 1 == 1
  let exponent := field n 52 11
  let fraction := field n 0 52
  if exponent = 2047 then
    if fraction = 0 then .infinite negative else .nan
  else if exponent = 0 then .finite negative fraction (-1074)
  else .finite negative (fraction + Nat.pow 2 52) (exponent - 1075)

/-- The double with the value of a single, which every single has. -/
def ofBinary32 (bits : UInt32) : Binary64 :=
  let n := bits.toNat
  let negative := field n 31 1
  let exponent := field n 23 8
  let fraction := field n 0 23
  let build (e f : Nat) : Binary64 :=
    ⟨UInt64.ofNat (negative * Nat.pow 2 63 + e * Nat.pow 2 52 + f)⟩
  if exponent = 255 then build 2047 (fraction * Nat.pow 2 29)
  else if exponent ≠ 0 then build (exponent + 896) (fraction * Nat.pow 2 29)
  else if fraction = 0 then build 0 0
  else
    let top := fraction.log2
    build (top + 874) ((fraction - Nat.pow 2 top) * Nat.pow 2 (52 - top))

end Binary64

end EventLog
