/-!
Number texts: decimal digits, digits padded to a length, and the sixteen hexadecimal digits of a
word.
-/
namespace EventLog.Text

/-- The digit of `n` in bases up to sixteen, in lower case. -/
def digitChar (n : Nat) : Char := Nat.digitChar n

/-- The decimal digits of `n`, without leading zeros. -/
def decimal (n : Nat) : List Char := Nat.toDigits 10 n

def number (n : Nat) : String := String.ofList (decimal n)

/-- The last `len` digits of `n` in base `base`, leading zeros included. -/
def fixedDigits (base : Nat) : (len : Nat) → Nat → List Char
  | 0, _ => []
  | len + 1, n => fixedDigits base len (n / base) ++ [digitChar (n % base)]

def paddedDecimal (len n : Nat) : List Char :=
  let ds := decimal n
  List.replicate (len - ds.length) '0' ++ ds

def hex16 (n : UInt64) : List Char := fixedDigits 16 16 n.toNat

end EventLog.Text
