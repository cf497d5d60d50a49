/-
# Binary floating point

The non-negative numbers that a double can hold: `mantissa · 2 ^ exponent` with a
mantissa of at most 53 bits and an exponent of at least -1074.  A quotient of two
natural numbers is rounded to the nearest of them; of two that are equally near,
to the one with the even mantissa.
-/

namespace Flowchart

/-- The number `mantissa · 2 ^ exponent`. -/
structure Binary where
  mantissa : Nat
  exponent : Int
deriving DecidableEq, Repr

namespace Binary

/-- The least exponent. -/
def minExponent : Int := -1074

/-- The greatest exponent of a mantissa with 53 bits. -/
def maxExponent : Int := 971

/-- Zero. -/
def zero : Binary := ⟨0, minExponent⟩

/-- Whether the number is zero. -/
def isZero (b : Binary) : Bool :=
  b.mantissa = 0

/-- `2 ^ e` as a quotient. -/
def powerOfTwo (e : Int) : Nat × Nat :=
  (Nat.pow 2 e.toNat, Nat.pow 2 (-e).toNat)

/-- The number as a quotient. -/
def ratio (b : Binary) : Nat × Nat :=
  (b.mantissa * (powerOfTwo b.exponent).1, (powerOfTwo b.exponent).2)

/-- The quotient `num / den` rounded to a whole number, a half to the even neighbour. -/
def roundDiv (num den : Nat) : Nat :=
  let q := num / den
  let twice := 2 * (num % den)
  if twice < den then q else if den < twice then q + 1 else q + q % 2

/-- The greatest `e` with `2 ^ e ≤ num / den`. -/
def floorLog (num den : Nat) : Int :=
  let e : Int := (num.log2 : Int) - (den.log2 : Int)
  if den * (powerOfTwo e).1 ≤ num * (powerOfTwo e).2 then e else e - 1

/-- The number nearest to `num / den`, if that is not too great. -/
def ofRatio? (num den : Nat) : Option Binary :=
  if num = 0 then some zero
  else
    let e := max (floorLog num den - 52) minExponent
    let scale := powerOfTwo e
    let m := roundDiv (num * scale.2) (den * scale.1)
    let rounded : Binary := if m = Nat.pow 2 53 then ⟨Nat.pow 2 52, e + 1⟩ else ⟨m, e⟩
    if rounded.exponent ≤ maxExponent then some rounded else none

/-- The number nearest to a product. -/
def mul? (a b : Binary) : Option Binary :=
  ofRatio? (a.ratio.1 * b.ratio.1) (a.ratio.2 * b.ratio.2)

/-- The number nearest to a quotient. -/
def div? (a b : Binary) : Option Binary :=
  ofRatio? (a.ratio.1 * b.ratio.2) (a.ratio.2 * b.ratio.1)

/-- The greatest power of ten that is not too great. -/
def maxPower : Nat := 308

/-- The number nearest to a power of ten. -/
def powerOfTen? (k : Nat) : Option Binary :=
  ofRatio? (Nat.pow 10 k) 1

/-- The number divided by `10 ^ k`, rounded after each division by a power of ten
that is not too great. -/
def divPowerOfTen? (b : Binary) (k : Nat) : Option Binary :=
  if k ≤ maxPower then (powerOfTen? k).bind b.div?
  else if b.isZero then some b
  else ((powerOfTen? maxPower).bind b.div?).bind fun b' => divPowerOfTen? b' (k - maxPower)
termination_by k
decreasing_by
  unfold maxPower at *
  omega

/-- The number multiplied by `10 ^ k`, if that is not too great. -/
def mulPowerOfTen? (b : Binary) (k : Nat) : Option Binary :=
  if k ≤ maxPower then (powerOfTen? k).bind b.mul?
  else if b.isZero then some b
  else none

/-- The number written as `significand · 10 ^ exponent`.  The significand, the power
and the result are each rounded. -/
def ofDecimal? (significand : Nat) (exponent : Int) : Option Binary := do
  let b ← ofRatio? significand 1
  if 0 ≤ exponent then b.mulPowerOfTen? exponent.toNat else b.divPowerOfTen? (-exponent).toNat

end Binary

end Flowchart
