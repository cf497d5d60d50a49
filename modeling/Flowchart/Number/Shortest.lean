/-
# Shortest decimals

A binary number is written with the fewest decimal digits that read back as it; of
several such decimals the nearest to it is taken.  The decimals that read back form
an interval around the number, which ends half way to its two neighbours.
-/
import Flowchart.Number.Binary
import Flowchart.Text.Basic

namespace Flowchart

/-- The number `digits · 10 ^ exponent`. -/
structure Decimal where
  digits : Nat
  exponent : Int
deriving DecidableEq, Repr

namespace Decimal

/-- `10 ^ e` as a quotient. -/
def powerOfTen (e : Int) : Nat × Nat :=
  (Nat.pow 10 e.toNat, Nat.pow 10 (-e).toNat)

/-- The number as a quotient. -/
def ratio (d : Decimal) : Nat × Nat :=
  (d.digits * (powerOfTen d.exponent).1, (powerOfTen d.exponent).2)

/-- Drops the zeros at the end of the digits. -/
def trimZeros (d : Decimal) : Nat → Decimal
  | 0 => d
  | fuel + 1 =>
    if d.digits ≠ 0 ∧ d.digits % 10 = 0 then trimZeros ⟨d.digits / 10, d.exponent + 1⟩ fuel else d

end Decimal

namespace Binary

/-- Whether a quotient is less than another one. -/
def ratioLt (a b : Nat × Nat) : Bool :=
  a.1 * b.2 < b.1 * a.2

/-- Four times the mantissa, less one or two: the lower end of the interval. -/
def lowerEnd (b : Binary) : Nat × Nat :=
  let narrow := b.mantissa = Nat.pow 2 52 && minExponent < b.exponent
  let scale := powerOfTwo (b.exponent - 2)
  ((4 * b.mantissa - (if narrow then 1 else 2)) * scale.1, scale.2)

/-- Four times the mantissa and two: the upper end of the interval. -/
def upperEnd (b : Binary) : Nat × Nat :=
  let scale := powerOfTwo (b.exponent - 2)
  ((4 * b.mantissa + 2) * scale.1, scale.2)

/-- Whether a decimal reads back as the number.  The ends of the interval do so if
the mantissa is even. -/
def readsBack (b : Binary) (d : Decimal) : Bool :=
  if b.mantissa % 2 = 0 then !ratioLt d.ratio b.lowerEnd && !ratioLt b.upperEnd d.ratio
  else ratioLt b.lowerEnd d.ratio && ratioLt d.ratio b.upperEnd

/-- The greatest multiple of `10 ^ e` that is not above the number. -/
def floorAt (b : Binary) (e : Int) : Decimal :=
  let power := Decimal.powerOfTen e
  ⟨b.ratio.1 * power.2 / (b.ratio.2 * power.1), e⟩

/-- Whether the upper neighbour of `d` on its grid is nearer to the number than `d`;
of two that are equally near the even one counts as nearer. -/
def upperIsNearer (b : Binary) (d : Decimal) : Bool :=
  let middle : Nat × Nat := (Decimal.mk (10 * d.digits + 5) (d.exponent - 1)).ratio
  ratioLt middle b.ratio || (!ratioLt b.ratio middle && d.digits % 2 = 1)

/-- The decimal on the grid of `10 ^ e` that reads back, if there is one. -/
def onGrid? (b : Binary) (e : Int) : Option Decimal :=
  let lower := b.floorAt e
  let upper : Decimal := ⟨lower.digits + 1, e⟩
  match b.readsBack lower, b.readsBack upper with
  | true, true => some (if b.upperIsNearer lower then upper else lower)
  | true, false => some lower
  | false, true => some upper
  | false, false => none

/-- The number of digits before the decimal point, negative for zeros after it. -/
def magnitude (b : Binary) : Int :=
  let guess : Int := (floorLog b.ratio.1 b.ratio.2) * 30103 / 100000
  if ratioLt b.ratio (Decimal.powerOfTen (guess + 1)) then guess + 1 else guess + 2

/-- The shortest decimal that reads back; seventeen digits always do. -/
def shortest (b : Binary) : Decimal :=
  if b.isZero then ⟨0, 0⟩
  else
    let grids := (List.range 17).map fun (n : Nat) => b.magnitude - 1 - (n : Int)
    ((grids.findSome? b.onGrid?).getD (b.floorAt (b.magnitude - 17))).trimZeros 17

/-! ## Notation -/

/-- Numbers below `10 ^ 16` that are not below `10 ^ -5` are written with a decimal
point, zero too, and all others with an exponent.  There is always a decimal point
or an exponent. -/
def text (b : Binary) : Text :=
  let d := b.shortest
  let ds := Text.ofNat d.digits
  let point : Int := ds.length + d.exponent
  if -4 ≤ point ∧ point ≤ 16 then
    if 0 ≤ d.exponent then ds ++ List.replicate d.exponent.toNat '0' ++ ['.', '0']
    else if 0 < point then ds.take point.toNat ++ '.' :: ds.drop point.toNat
    else '0' :: '.' :: List.replicate (-point).toNat '0' ++ ds
  else
    let sign := if 0 < point then '+' else '-'
    let fraction := if ds.length ≤ 1 then [] else '.' :: ds.drop 1
    ds.take 1 ++ fraction ++ 'e' :: sign :: Text.ofNat (point - 1).natAbs

end Binary

end Flowchart
