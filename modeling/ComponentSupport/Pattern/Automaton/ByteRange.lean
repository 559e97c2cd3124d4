/-!
# Code points as bytes

A range of code points is split into parts whose UTF-8 forms are products of byte ranges: all forms
of a part have the same length, and each of their bytes runs through a range of its own. So
`U+0000` to `U+07FF` has the two parts `00-7F` and `C2-DF 80-BF`.
-/

namespace ComponentSupport.Pattern

/-- Bytes from a lowest to a highest. -/
structure ByteRange where
  low : UInt8
  high : UInt8
  deriving DecidableEq

namespace ByteRange

/-- Whether a byte is in a range. -/
def contains (r : ByteRange) (b : UInt8) : Bool := r.low ≤ b && b ≤ r.high

/-- The range of one byte. -/
def single (b : UInt8) : ByteRange := ⟨b, b⟩

/-- Every byte. -/
def all : ByteRange := ⟨0, 0xFF⟩

/-- Where a range of code points is cut first from the left: after the last code point of a UTF-8
length, or where a block begins or ends within which the last bytes run free. -/
def cut? (low high : Nat) : Option Nat :=
  match [0x7F, 0x7FF, 0xFFFF].find? fun last => low ≤ last && last < high with
  | some last => some last
  | none =>
    if high ≤ 0x7F then none
    else
      [0x40, 0x1000, 0x40000].findSome? fun block =>
        if low / block = high / block then none
        else if low % block ≠ 0 then some (low / block * block + block - 1)
        else if high % block ≠ block - 1 then some (high / block * block - 1)
        else none

/-- The parts of a range of code points without surrogates, each as the ranges of its bytes. -/
def parts (low high : Nat) : List (List ByteRange) :=
  match cut? low high with
  | some cut =>
    if _ : low ≤ cut ∧ cut < high then parts low cut ++ parts (cut + 1) high else []
  | none =>
    [List.zipWith ByteRange.mk (String.utf8EncodeChar (Char.ofNat low))
      (String.utf8EncodeChar (Char.ofNat high))]
termination_by high - low

/-- The parts of a range of code points; surrogates have no bytes. -/
def ofPoints (low high : Nat) : List (List ByteRange) :=
  if low < 0xE000 ∧ 0xD7FF < high then
    (if low ≤ 0xD7FF then parts low 0xD7FF else []) ++
      (if 0xE000 ≤ high then parts 0xE000 high else [])
  else parts low high

end ByteRange

end ComponentSupport.Pattern
