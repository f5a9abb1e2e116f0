import TaskSynth.Decimal.Shortest

namespace TaskSynth.Decimal

/-- The binary64 value nearest to an integer of at most 64 bits. -/
def ofInt (n : Int) : Float :=
  match n with
  | .ofNat k => k.toUInt64.toFloat
  | .negSucc k => -(k + 1).toUInt64.toFloat

/-- The integer that a value without fraction is, kept within 64 signed bits. -/
def toInt (x : Float) : Int :=
  let bits := x.toBits.toNat
  let negative := bits ≥ signedLimit
  let b := Binary.ofBits (bits % signedLimit)
  let size := b.mantissa * Nat.pow 2 b.exponent.toNat / Nat.pow 2 (-b.exponent).toNat
  if negative then max (-(size : Int)) (-(signedLimit : Int))
  else min (size : Int) (signedLimit - 1)

/-- What is left of `x` after as many whole `y` as fit; it has the sign of `x`. -/
def remainder (x y : Float) : Float :=
  if x.isNaN || y.isNaN || x.isInf || y == 0.0 then 0.0 / 0.0
  else if y.isInf || x == 0.0 then x
  else
    let a := Binary.ofBits (x.toBits.toNat % signedLimit)
    let b := Binary.ofBits (y.toBits.toNat % signedLimit)
    let e := min a.exponent b.exponent
    let m := a.mantissa * Nat.pow 2 (a.exponent - e).toNat
    let n := b.mantissa * Nat.pow 2 (b.exponent - e).toNat
    let size := (m % n).toUInt64.toFloat.scaleB e
    if x < 0.0 then -size else size

end TaskSynth.Decimal
