/-!
# Bytes on the wire

Byte strings are lists. `checksum` is the inverted byte sum that ends every packet in both
directions, `bigEndian` the order in which words travel, and `hexByte` the form in which a byte
is named in messages.
-/

namespace RobotDriver

/-- A byte string, first byte first. -/
abbrev Bytes := List UInt8

/-- The sum of the bytes modulo 256. -/
def byteSum (bytes : Bytes) : UInt8 :=
  bytes.foldl (· + ·) 0

/-- The complement of the byte sum. -/
def checksum (bytes : Bytes) : UInt8 :=
  ~~~ byteSum bytes

theorem foldl_add_eq (a : UInt8) (bytes : Bytes) :
    bytes.foldl (· + ·) a = a + bytes.foldl (· + ·) 0 := by
  induction bytes generalizing a with
  | nil => simp
  | cons b bs ih => rw [List.foldl_cons, List.foldl_cons, ih (a + b), ih (0 + b)]; simp [UInt8.add_assoc]

@[simp] theorem byteSum_nil : byteSum [] = 0 := rfl

@[simp] theorem byteSum_cons (b : UInt8) (bs : Bytes) : byteSum (b :: bs) = b + byteSum bs := by
  rw [byteSum, List.foldl_cons, foldl_add_eq, byteSum]; simp

@[simp] theorem byteSum_append (xs ys : Bytes) : byteSum (xs ++ ys) = byteSum xs + byteSum ys := by
  rw [byteSum, List.foldl_append, foldl_add_eq, byteSum, byteSum]

/-- The high byte of a word, then the low byte. -/
def bigEndian (word : UInt16) : Bytes :=
  [(word >>> 8).toUInt8, word.toUInt8]

@[simp] theorem length_bigEndian (word : UInt16) : (bigEndian word).length = 2 := rfl

/-- A flag as a byte, one for `true`. -/
def flagByte (flag : Bool) : UInt8 :=
  if flag then 1 else 0

/-- A digit of base sixteen in lower case. -/
def hexDigit (n : Nat) : Char :=
  if n < 10 then Char.ofNat (48 + n) else Char.ofNat (87 + n)

/-- A byte as `0x` and two digits. -/
def hexByte (b : UInt8) : String :=
  String.ofList ['0', 'x', hexDigit (b.toNat / 16), hexDigit (b.toNat % 16)]

end RobotDriver
