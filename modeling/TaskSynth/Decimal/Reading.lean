/-! Decimal digits read as numbers: exactly as a natural number, and as the nearest binary64
value. Exponents beyond the range of the format are settled before any power is computed. -/
namespace TaskSynth.Decimal

def isDigit (c : Char) : Bool := '0' ≤ c && c ≤ '9'

def digitValue (c : Char) : Nat := c.toNat - '0'.toNat

def natural (digits : List Char) : Nat := digits.foldl (fun n c => 10 * n + digitValue c) 0

def digitIn? (base : Nat) (c : Char) : Option Nat :=
  let value :=
    if isDigit c then c.toNat - 48
    else if 'a' ≤ c && c ≤ 'z' then c.toNat - 87
    else if 'A' ≤ c && c ≤ 'Z' then c.toNat - 55
    else base
  if value < base then some value else none

/-- At least one digit of the base, and nothing else. -/
def natural? (base : Nat) (digits : List Char) : Option Nat :=
  match digits with
  | [] => none
  | _ => digits.foldlM (fun n c => (digitIn? base c).map (base * n + ·)) 0

/-- The binary64 value nearest to `n · 10 ^ exponent`. -/
def nearest (n : Nat) (exponent : Int) : Float :=
  let reach : Int := exponent + (Nat.toDigits 10 n).length
  if n == 0 || reach < -330 then 0.0
  else if reach > 330 then 1.0 / 0.0
  else if exponent < 0 then Float.ofScientific n true exponent.natAbs
  else Float.ofScientific n false exponent.natAbs

/-- A number with an optional fraction and exponent: `digits[.digits][e[+-]digits]`, where one
side of the point may be empty. -/
def unsigned? (text : List Char) : Option Float :=
  let whole := text.takeWhile isDigit
  let afterWhole := text.dropWhile isDigit
  let (fraction, afterFraction) := match afterWhole with
    | '.' :: r => (r.takeWhile isDigit, r.dropWhile isDigit)
    | r => ([], r)
  let n := natural (whole ++ fraction)
  let scaled (exponent : Int) := nearest n (exponent - fraction.length)
  if whole.isEmpty && fraction.isEmpty then none
  else match afterFraction with
    | [] => some (scaled 0)
    | e :: r =>
      if e == 'e' || e == 'E' then
        let (negative, digits) := match r with
          | '-' :: ds => (true, ds)
          | '+' :: ds => (false, ds)
          | ds => (false, ds)
        if digits.isEmpty || !digits.all isDigit then none
        else
          let size : Int := natural digits
          some (scaled (if negative then -size else size))
      else none

end TaskSynth.Decimal
