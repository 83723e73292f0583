/-!
# Shortest decimals

A positive finite double stands for all reals nearer to it than to its neighbours. Its shortest decimal is the one
with the fewest digits among these reals, the nearest of several, and of two equally near the even one. The search
looks at one grid of decimals after the other, 1 to 17 digits wide, and there at the two points around the double;
all arithmetic is exact.
-/

namespace AckDesk.Decimal

/-- The decimal `digits · 10 ^ exponent`. -/
structure Digits where
  digits : Nat
  exponent : Int
deriving DecidableEq

/-- A positive double `mantissa · 2 ^ exponent`; the neighbour below is half as far when `narrow` holds. -/
structure Binary where
  mantissa : Nat
  exponent : Int
  narrow : Bool
deriving DecidableEq

namespace Binary

/-- The parts of a positive finite double. -/
def ofFloat (f : Float) : Binary :=
  let bits := f.toBits.toNat
  let fraction := bits % (1 <<< 52)
  let field : Nat := bits >>> 52 % (1 <<< 11)
  if field = 0 then ⟨fraction, -1074, false⟩
  else ⟨fraction + (1 <<< 52), Int.ofNat field - 1075, fraction = 0 && 1 < field⟩

/-- The numerator of the double as a fraction. -/
def numerator (b : Binary) : Nat := b.mantissa <<< b.exponent.toNat

/-- The denominator of the double as a fraction. -/
def denominator (b : Binary) : Nat := 1 <<< (-b.exponent).toNat

/-- The decimal `c · 10 ^ k` is read as the double: it lies between the halfway points to the neighbours, or on one of
them if the mantissa is even. -/
def contains (b : Binary) (c : Nat) (k : Int) : Bool :=
  let x := 4 * c * Nat.pow 10 k.toNat * b.denominator
  let unit := Nat.pow 10 (-k).toNat <<< b.exponent.toNat
  let low := (4 * b.mantissa - (if b.narrow then 1 else 2)) * unit
  let high := (4 * b.mantissa + 2) * unit
  if b.mantissa % 2 = 0 then low ≤ x && x ≤ high else low < x && x < high

/-- How far `c · 10 ^ k` is from the double, in a unit that depends on `k` only. -/
def distance (b : Binary) (c : Nat) (k : Int) : Nat :=
  let x : Int := c * Nat.pow 10 k.toNat * b.denominator
  let v : Int := b.numerator * Nat.pow 10 (-k).toNat
  (x - v).natAbs

/-- The exponent of the leading digit. -/
def magnitude (b : Binary) : Int :=
  if b.denominator ≤ b.numerator then Int.ofNat (Nat.toDigits 10 (b.numerator / b.denominator)).length - 1
  else
    let q := (b.denominator + b.numerator - 1) / b.numerator
    .negOfNat (Nat.toDigits 10 (q - 1)).length

/-- The decimal on the grid of `n` digits that is read as the double, if there is one. -/
def onGrid? (b : Binary) (n : Nat) : Option Digits :=
  let k := b.magnitude - (n - 1 : Int)
  let below := b.numerator * Nat.pow 10 (-k).toNat / (b.denominator * Nat.pow 10 k.toNat)
  let above := below + 1
  match b.contains below k, b.contains above k with
  | false, false => none
  | true, false => some ⟨below, k⟩
  | false, true => some ⟨above, k⟩
  | true, true =>
    let left := b.distance below k
    let right := b.distance above k
    some ⟨if left < right ∨ left = right ∧ below % 2 = 0 then below else above, k⟩

end Binary

/-- The decimal without the zeros at its end. -/
def Digits.trimZeros (d : Digits) : Digits :=
  if h : d.digits ≠ 0 ∧ d.digits % 10 = 0 then Digits.trimZeros ⟨d.digits / 10, d.exponent + 1⟩ else d
termination_by d.digits
decreasing_by exact Nat.div_lt_self (Nat.pos_of_ne_zero h.1) (by decide)

/-- The shortest decimal of a positive finite double. -/
def shortest (f : Float) : Digits :=
  let b := Binary.ofFloat f
  (((List.range 17).findSome? fun n => b.onGrid? (n + 1)).getD ⟨0, 0⟩).trimZeros

end AckDesk.Decimal
