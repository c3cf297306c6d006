/-!
Text as UTF-8 bytes, and bytes as text. Reading is strict (`decode?`) or puts U+FFFD for every
longest run of bytes that starts a character and does not finish it (`decodeLossy`).
-/
namespace EventLog.Text

def encode (cs : List Char) : List UInt8 := cs.flatMap String.utf8EncodeChar

def encodeText (s : String) : List UInt8 := encode s.toList

/-- What stands at the start of some bytes: a character of `size` bytes, or `size` bytes that no
character accounts for. -/
inductive Lead where
  | char (c : Char) (size : Nat)
  | broken (size : Nat)
  deriving Repr

/-- The bytes that may follow the first byte `b` of a character that goes on. -/
def secondRange (b : UInt8) : UInt8 × UInt8 :=
  if b == 0xE0 then (0xA0, 0xBF)
  else if b == 0xED then (0x80, 0x9F)
  else if b == 0xF0 then (0x90, 0xBF)
  else if b == 0xF4 then (0x80, 0x8F)
  else (0x80, 0xBF)

def isTail (b : UInt8) : Bool := 0x80 ≤ b && b ≤ 0xBF

def low6 (b : UInt8) : Nat := b.toNat % 64

/-- Reads the character, or the broken run, that the bytes `b :: rest` start with. -/
def lead (b : UInt8) (rest : List UInt8) : Lead :=
  let second := match rest with
    | c :: _ => decide ((secondRange b).1 ≤ c) && decide (c ≤ (secondRange b).2)
    | [] => false
  if b < 0x80 then .char (Char.ofNat b.toNat) 1
  else if b < 0xC2 then .broken 1
  else if b < 0xE0 then
    match rest with
    | c :: _ => if second then .char (Char.ofNat ((b.toNat % 32) * 64 + low6 c)) 2 else .broken 1
    | [] => .broken 1
  else if b < 0xF0 then
    match rest with
    | c :: d :: _ =>
      if !second then .broken 1
      else if isTail d then
        .char (Char.ofNat ((b.toNat % 16) * 4096 + low6 c * 64 + low6 d)) 3
      else .broken 2
    | [_] => if second then .broken 2 else .broken 1
    | [] => .broken 1
  else if b < 0xF5 then
    match rest with
    | c :: d :: e :: _ =>
      if !second then .broken 1
      else if !isTail d then .broken 2
      else if isTail e then
        .char (Char.ofNat ((b.toNat % 8) * 262144 + low6 c * 4096 + low6 d * 64 + low6 e)) 4
      else .broken 3
    | [_, d] => if !second then .broken 1 else if isTail d then .broken 3 else .broken 2
    | [_] => if second then .broken 2 else .broken 1
    | [] => .broken 1
  else .broken 1

/-- The text of some bytes, a `none` for every broken run. `skip` bytes at the start belong to what
was read before. -/
def pieces : (skip : Nat) → List UInt8 → List (Option Char)
  | _, [] => []
  | skip + 1, _ :: rest => pieces skip rest
  | 0, b :: rest =>
    match lead b rest with
    | .char c size => some c :: pieces (size - 1) rest
    | .broken size => none :: pieces (size - 1) rest

def characters (bytes : List UInt8) : List (Option Char) := pieces 0 bytes

/-- The character written for bytes that are no text. -/
def replacement : Char := '\ufffd'

/-- The text of some bytes, with U+FFFD for every broken run. -/
def decodeLossy (bytes : List UInt8) : List Char :=
  (characters bytes).map (·.getD replacement)

def decode? (bytes : List UInt8) : Option (List Char) := (characters bytes).mapM id

end EventLog.Text
