import ReviewPanel.Binary.Format

/-! # Numbers of 32 and 64 bits

A number is a sign and the pattern of its magnitude. Patterns above infinity are not numbers. -/
namespace ReviewPanel

/-- A 32-bit floating-point number by its bits. -/
structure Single where
  bits : UInt32
deriving Repr, DecidableEq, BEq, Inhabited

/-- A 64-bit floating-point number by its bits. -/
structure Double where
  bits : UInt64
deriving Repr, DecidableEq, BEq, Inhabited

namespace Single

def ofParts (negative : Bool) (pattern : Nat) : Single :=
  ⟨UInt32.ofNat (if negative then Nat.pow 2 31 + pattern else pattern)⟩

def isNegative (x : Single) : Bool := Nat.pow 2 31 ≤ x.bits.toNat

def pattern (x : Single) : Nat := x.bits.toNat % Nat.pow 2 31

def isFinite (x : Single) : Bool := x.pattern < Binary.single.infinity

def zero : Single := ⟨0⟩

def half : Single := ⟨0x3F000000⟩

def one : Single := ⟨0x3F800000⟩

def ofInt (i : Int) : Single := ofParts (i < 0) (Binary.single.round i.natAbs 1)

/-- The number moved into the range from zero to one; negative zero is in range. -/
def clamp (x : Single) : Single :=
  if x.isNegative && x.pattern != 0 then zero
  else if !x.isNegative && one.pattern < x.pattern then one
  else x

end Single

namespace Double

def ofParts (negative : Bool) (pattern : Nat) : Double :=
  ⟨UInt64.ofNat (if negative then Nat.pow 2 63 + pattern else pattern)⟩

def isNegative (x : Double) : Bool := Nat.pow 2 63 ≤ x.bits.toNat

def pattern (x : Double) : Nat := x.bits.toNat % Nat.pow 2 63

def isFinite (x : Double) : Bool := x.pattern < Binary.double.infinity

def toSingle (x : Double) : Single :=
  let m := Binary.double.magnitude x.pattern
  Single.ofParts x.isNegative (Binary.single.round m.numerator m.denominator)

def powerOfTen (e : Nat) : Nat := Binary.double.round (Nat.pow 10 e) 1

/-- Divides by the greatest power of ten of the format, at most `steps` times. -/
def scaleDown : Nat → Nat → Nat
  | 0, pattern => pattern
  | steps + 1, pattern =>
    if pattern = 0 then 0 else scaleDown steps (Binary.double.div pattern (powerOfTen 308))

/-- The magnitude `significand * 10 ^ exponent`, rounded when the significand is taken over and again
when it is scaled. `none` when it is out of range. -/
def ofDecimal? (significand : Nat) (exponent : Int) : Option Nat :=
  let pattern := Binary.double.round significand 1
  if exponent < 0 then
    let steps := (exponent.natAbs - 1) / 308
    some (Binary.double.div (scaleDown steps pattern) (powerOfTen (exponent.natAbs - 308 * steps)))
  else if 308 < exponent then if pattern = 0 then some 0 else none
  else
    let scaled := Binary.double.mul pattern (powerOfTen exponent.toNat)
    if scaled < Binary.double.infinity then some scaled else none

end Double

def Single.toDouble (x : Single) : Double :=
  let m := Binary.single.magnitude x.pattern
  Double.ofParts x.isNegative (Binary.double.round m.numerator m.denominator)

end ReviewPanel
