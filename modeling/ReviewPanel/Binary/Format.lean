/-! # Binary floating-point formats

A finite magnitude of a format is `m * 2 ^ q`. Magnitudes are handled as bit patterns without the
sign: the patterns of one format have the order of the magnitudes, and the pattern after the greatest
finite one is infinity. All arithmetic is exact and rounds once, to nearest, ties to even. -/
namespace ReviewPanel.Binary

/-- A format by the number of its significant bits, the leading one included, and of its exponent bits. -/
structure Format where
  precision : Nat
  exponentBits : Nat
deriving Repr, DecidableEq

def single : Format := ⟨24, 8⟩

def double : Format := ⟨53, 11⟩

namespace Format

/-- The exponent of the least significant bit of the smallest magnitudes. -/
def lowest (f : Format) : Int := 3 - (Nat.pow 2 (f.exponentBits - 1) : Nat) - f.precision

/-- The pattern of infinity; every finite magnitude lies below it. -/
def infinity (f : Format) : Nat := (Nat.pow 2 f.exponentBits - 1) * Nat.pow 2 (f.precision - 1)

end Format

/-- A non-negative number `mantissa * 2 ^ exponent`. -/
structure Scaled where
  mantissa : Nat
  exponent : Int
deriving Repr, DecidableEq

namespace Scaled

def numerator (x : Scaled) : Nat := x.mantissa * Nat.pow 2 x.exponent.toNat

/-- The denominator of the number as a quotient of naturals. -/
def denominator (x : Scaled) : Nat := Nat.pow 2 (-x.exponent).toNat

end Scaled

def Format.magnitude (f : Format) (pattern : Nat) : Scaled :=
  let unit := Nat.pow 2 (f.precision - 1)
  let field := pattern / unit
  if field = 0 then ⟨pattern, f.lowest⟩
  else ⟨pattern % unit + unit, f.lowest + (field - 1 : Nat)⟩

/-- A quotient rounded to the nearest natural, a half going to the even neighbour. -/
def roundQuotient (num den : Nat) : Nat :=
  let q := num / den
  let r := num % den
  if 2 * r < den then q else if den < 2 * r then q + 1 else q + q % 2

/-- The greatest `e` with `2 ^ e ≤ num / den`, for positive arguments. -/
def floorLog (num den : Nat) : Int :=
  let guess : Int := num.log2 - den.log2
  if den * Nat.pow 2 guess.toNat ≤ num * Nat.pow 2 (-guess).toNat then guess else guess - 1

/-- The pattern of the magnitude nearest to `num / den`; infinity when it is out of range. -/
def Format.round (f : Format) (num den : Nat) : Nat :=
  if num = 0 then 0
  else
    let q := max f.lowest (floorLog num den - (f.precision - 1 : Nat))
    let m := roundQuotient (num * Nat.pow 2 (-q).toNat) (den * Nat.pow 2 q.toNat)
    min f.infinity ((q - f.lowest).toNat * Nat.pow 2 (f.precision - 1) + m)

def Format.mul (f : Format) (a b : Nat) : Nat :=
  let x := f.magnitude a
  let y := f.magnitude b
  f.round (x.numerator * y.numerator) (x.denominator * y.denominator)

/-- The pattern of the quotient of two finite magnitudes, the second not zero. -/
def Format.div (f : Format) (a b : Nat) : Nat :=
  let x := f.magnitude a
  let y := f.magnitude b
  f.round (x.numerator * y.denominator) (x.denominator * y.numerator)

end ReviewPanel.Binary
