import TaskSynth.Decimal.Word

/-! The shortest decimal that reads back as a given binary64 value. The value is
`mantissa · 2 ^ exponent`; a decimal reads back as it exactly when it lies in the interval of
reals that round to it. For one digit, two digits and so on the two neighbours of the value on
that decimal grid are tried, so the first grid with a hit has the fewest digits; of two hits the
nearer wins, and of two equally near ones the even one. -/
namespace TaskSynth.Decimal

/-- A positive value `mantissa · 2 ^ exponent`. -/
structure Binary where
  mantissa : Nat
  exponent : Int

/-- The bit of weight `2 ^ 52`, which the bits of a normal value leave out. -/
def leadingBit : Nat := 0x10000000000000

/-- The magnitude held by the bits of a finite value. -/
def Binary.ofBits (bits : Nat) : Binary :=
  let fraction : Nat := bits % leadingBit
  let biased : Nat := bits / leadingBit % 2048
  if biased == 0 then ⟨fraction, -1074⟩ else ⟨fraction + leadingBit, (biased : Int) - 1075⟩

/-- The value, and the ends of the interval that rounds to it, over one common denominator. -/
structure Interval where
  low : Nat
  value : Nat
  high : Nat
  denominator : Nat
  closed : Bool

def Binary.interval (b : Binary) : Interval :=
  let m := b.mantissa
  let e := b.exponent - 2
  let narrow := m == leadingBit && b.exponent != -1074
  let low := if narrow then 4 * m - 1 else 4 * m - 2
  let up := Nat.pow 2 e.toNat
  let down := Nat.pow 2 (-e).toNat
  ⟨low * up, 4 * m * up, (4 * m + 2) * up, down, m % 2 == 0⟩

/-- Does `digits · 10 ^ k` round to the value? -/
def Interval.holds (i : Interval) (digits : Nat) (k : Int) : Bool :=
  let x := digits * Nat.pow 10 k.toNat * i.denominator
  let scale := Nat.pow 10 (-k).toNat
  if i.closed then i.low * scale ≤ x && x ≤ i.high * scale
  else i.low * scale < x && x < i.high * scale

/-- The number of decimal digits of a natural number; zero has one. -/
def digitCount (n : Nat) : Nat := (Nat.toDigits 10 n).length

/-- The exponent of the first significant digit of `num / den`. -/
def leadingExponent (num den : Nat) : Int :=
  let guess : Int := (digitCount num : Int) - digitCount den
  let reaches (k : Int) : Bool := den * Nat.pow 10 k.toNat ≤ num * Nat.pow 10 (-k).toNat
  if reaches guess then guess else guess - 1

/-- The neighbour of the value on the grid of `10 ^ k`, if one reads back. -/
def Interval.onGrid? (i : Interval) (k : Int) : Option Nat :=
  let num := i.value * Nat.pow 10 (-k).toNat
  let den := i.denominator * Nat.pow 10 k.toNat
  let below := num / den
  let rest := num % den
  match i.holds below k, i.holds (below + 1) k with
  | true, false => some below
  | false, true => some (below + 1)
  | false, false => none
  | true, true =>
    if 2 * rest < den then some below
    else if 2 * rest > den then some (below + 1)
    else some (if below % 2 == 0 then below else below + 1)

/-- Significant digits, and the exponent of the first of them. -/
structure Scientific where
  digits : List Char
  exponent : Int

/-- Tries `left` more grids, from that of `10 ^ k` down. Seventeen digits always suffice. -/
def Interval.shortest (i : Interval) (k : Int) : Nat → Nat × Int
  | 0 => (i.value * Nat.pow 10 (-k).toNat / (i.denominator * Nat.pow 10 k.toNat), k)
  | left + 1 =>
    match i.onGrid? k with
    | some n => (n, k)
    | none => i.shortest (k - 1) left

def dropTrailingZeros (digits : List Char) : List Char :=
  (digits.reverse.dropWhile (· == '0')).reverse

def Binary.shortest (b : Binary) : Scientific :=
  let i := b.interval
  let (n, k) := i.shortest (leadingExponent i.value i.denominator) 17
  let digits := Nat.toDigits 10 n
  ⟨dropTrailingZeros digits, k + digits.length - 1⟩

/-- Where positional notation ends, and how the parts are spelled. -/
structure Style where
  least : Int
  most : Int
  keepsPoint : Bool
  plusSign : Bool

def zeros (n : Nat) : List Char := List.replicate n '0'

/-- Digits with a decimal point placed after the digit of weight one. -/
def Scientific.positional (s : Scientific) (keepsPoint : Bool) : List Char :=
  if s.exponent < 0 then ['0', '.'] ++ zeros ((-s.exponent).toNat - 1) ++ s.digits
  else
    let whole := s.exponent.toNat + 1
    if s.digits.length ≤ whole then
      s.digits ++ zeros (whole - s.digits.length) ++ (if keepsPoint then ['.', '0'] else [])
    else s.digits.take whole ++ '.' :: s.digits.drop whole

def Scientific.withExponent (s : Scientific) (plusSign : Bool) : List Char :=
  let mantissa := match s.digits with
    | d :: [] => [d]
    | d :: ds => d :: '.' :: ds
    | [] => []
  let sign := if s.exponent < 0 then ['-'] else if plusSign then ['+'] else []
  mantissa ++ 'e' :: sign ++ Nat.toDigits 10 s.exponent.natAbs

def Style.text (style : Style) (x : Float) : List Char :=
  let bits := x.toBits.toNat
  let sign := if bits ≥ signedLimit then ['-'] else []
  if bits % signedLimit == 0 then
    sign ++ (if style.keepsPoint then ['0', '.', '0'] else ['0'])
  else
    let s := (Binary.ofBits bits).shortest
    sign ++ (if style.least ≤ s.exponent && s.exponent ≤ style.most
      then s.positional style.keepsPoint else s.withExponent style.plusSign)

end TaskSynth.Decimal
