import ReviewPanel.Binary.Numbers

/-! # The fewest decimal digits that read back

A finite magnitude stands for all reals that round to it. Among the decimals in that interval the
one with the fewest digits is chosen, and of two such decimals the nearer. -/
namespace ReviewPanel.Binary

/-- A positive decimal `digits * 10 ^ exponent`. -/
structure Decimal where
  digits : Nat
  exponent : Int
deriving Repr, DecidableEq

def compareScaled (d : Nat) (e : Int) (n : Nat) (q : Int) : Ordering :=
  compare (d * Nat.pow 10 e.toNat * Nat.pow 2 (-q).toNat) (n * Nat.pow 2 q.toNat * Nat.pow 10 (-e).toNat)

/-- The decimal lies among the reals that round to the magnitude of `pattern`. The ends of the
interval count when the mantissa is even, and below a power of two the interval is half as wide. -/
def Format.readsBack (f : Format) (pattern : Nat) (d : Nat) (e : Int) : Bool :=
  let x := f.magnitude pattern
  let unit := Nat.pow 2 (f.precision - 1)
  let narrow := x.mantissa == unit && unit * 2 ≤ pattern
  let low := if narrow then 4 * x.mantissa - 1 else 4 * x.mantissa - 2
  let high := 4 * x.mantissa + 2
  let closed := x.mantissa % 2 == 0
  let above := compareScaled d e low (x.exponent - 2)
  let below := compareScaled d e high (x.exponent - 2)
  (above == .gt || (closed && above == .eq)) && (below == .lt || (closed && below == .eq))

def floorOn (x : Scaled) (e : Int) : Nat :=
  (x.numerator * Nat.pow 10 (-e).toNat) / (x.denominator * Nat.pow 10 e.toNat)

/-- The least `k` with `x < 10 ^ k`, found by trying `tries` values upwards. -/
def decimalScale (x : Scaled) : Nat → Int → Int
  | 0, k => k
  | tries + 1, k => if floorOn x k = 0 then k else decimalScale x tries (k + 1)

/-- The candidates on the grid `10 ^ e` that read back: of two the nearer, and the even one if both are
equally near. -/
def Format.onGrid (f : Format) (pattern : Nat) (e : Int) : Option Decimal :=
  let x := f.magnitude pattern
  let lo := floorOn x e
  let loFits := lo ≠ 0 && f.readsBack pattern lo e
  let hiFits := f.readsBack pattern (lo + 1) e
  if loFits && hiFits then
    match compareScaled (2 * lo + 1) e (2 * x.mantissa) x.exponent with
    | .gt => some ⟨lo, e⟩
    | .lt => some ⟨lo + 1, e⟩
    | .eq => some ⟨lo + lo % 2, e⟩
  else if loFits then some ⟨lo, e⟩
  else if hiFits then some ⟨lo + 1, e⟩
  else none

/-- Tries grids from coarse to fine; `e` is the exponent of the first grid. -/
def Format.search (f : Format) (pattern : Nat) : Nat → Int → Decimal
  | 0, e => ⟨floorOn (f.magnitude pattern) e, e⟩
  | tries + 1, e =>
    match f.onGrid pattern e with
    | some d => d
    | none => f.search pattern tries (e - 1)

def Decimal.stripped : Nat → Decimal → Decimal
  | 0, d => d
  | tries + 1, d => if d.digits % 10 = 0 then Decimal.stripped tries ⟨d.digits / 10, d.exponent + 1⟩ else d

/-- The shortest decimal that reads back to a finite magnitude other than zero. -/
def Format.shortest (f : Format) (pattern : Nat) : Decimal :=
  let x := f.magnitude pattern
  let guess : Int := (((x.mantissa.log2 : Int) + x.exponent) * 30103).fdiv 100000
  let scale := decimalScale x 4 (guess - 1)
  Decimal.stripped 20 (f.search pattern 20 (scale - 1))

end ReviewPanel.Binary
