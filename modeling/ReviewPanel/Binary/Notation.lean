import ReviewPanel.Binary.Shortest

/-! # Writing a floating-point number

The fewest digits that identify the number. Numbers of moderate size are written positionally with at
least one digit after the point; all others with an exponent that carries its sign. -/
namespace ReviewPanel.Binary

/-- The exponents of the leading digit, from the first to the second, for which a number of the format
is written positionally. -/
def Format.positional (f : Format) : Int × Int :=
  if f.precision ≤ 24 then (-6, 12) else (-5, 15)

/-- The text of a decimal whose leading digit has an exponent in the positional range `low` to `high`. -/
def Decimal.layout (range : Int × Int) (d : Decimal) : List Char :=
  let digits := Nat.toDigits 10 d.digits
  let count := digits.length
  let lead := d.exponent + count - 1
  if range.1 ≤ lead ∧ lead ≤ range.2 then
    if 0 ≤ d.exponent then digits ++ List.replicate d.exponent.toNat '0' ++ ['.', '0']
    else if 0 ≤ lead then digits.take (lead + 1).toNat ++ '.' :: digits.drop (lead + 1).toNat
    else '0' :: '.' :: List.replicate (-lead - 1).toNat '0' ++ digits
  else
    let sign := if lead < 0 then '-' else '+'
    let mantissa := if count = 1 then digits else digits.take 1 ++ '.' :: digits.drop 1
    mantissa ++ 'e' :: sign :: Nat.toDigits 10 lead.natAbs

def Format.write (f : Format) (negative : Bool) (pattern : Nat) : List Char :=
  let body := if pattern = 0 then ['0', '.', '0'] else (f.shortest pattern).layout f.positional
  if negative then '-' :: body else body

end ReviewPanel.Binary

namespace ReviewPanel

def Single.write (x : Single) : List Char := Binary.single.write x.isNegative x.pattern

def Double.write (x : Double) : List Char := Binary.double.write x.isNegative x.pattern

end ReviewPanel
