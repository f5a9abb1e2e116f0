import TaskSynth.Decimal.Reading

/-! What an unquoted scalar stands for: null, a truth value, a number, or its own text. Integers
are decimal, or `0x`, `0o` or `0b` and digits of that base; they count up to 128 bits. Digits
after a leading zero are text. -/
namespace TaskSynth.Yaml

inductive Plain where
  | null
  | bool (b : Bool)
  | integer (n : Int)
  | float (x : Float)
  | text

namespace Plain

/-- More than one digit, the first of them zero, after an optional sign. -/
def hasLeadingZero (s : List Char) : Bool :=
  let digits := match s with
    | '-' :: r => r
    | '+' :: r => r
    | r => r
  match digits with
  | '0' :: c :: rest => (c :: rest).all Decimal.isDigit
  | _ => false

/-- A number below `limit` after the mark of its base, or in decimal. -/
def magnitude? (limit : Nat) (s : List Char) : Option Nat :=
  let number := match s with
    | '0' :: 'x' :: r => Decimal.natural? 16 r
    | '0' :: 'o' :: r => Decimal.natural? 8 r
    | '0' :: 'b' :: r => Decimal.natural? 2 r
    | r => if hasLeadingZero r then none else Decimal.natural? 10 r
  number.filter (· < limit)

/-- Below zero a number has 127 bits, or is the power of two beyond them. -/
def integer? : List Char → Option Int
  | '-' :: s => (magnitude? (Nat.pow 2 127 + 1) s).map fun n => -(n : Int)
  | '+' :: s => (magnitude? (Nat.pow 2 128) s).map Int.ofNat
  | s => (magnitude? (Nat.pow 2 128) s).map Int.ofNat

/-- The three spellings of a word: lower case, with a capital, upper case. -/
def isWord (word : List Char) (s : List Char) : Bool :=
  s == word || s == word.map Char.toUpper ||
    (match word with
      | c :: rest => s == c.toUpper :: rest
      | [] => false)

def infinity : Float := 1.0 / 0.0

def finite? (s : List Char) : Option Float := (Decimal.unsigned? s).filter (· < infinity)

/-- A finite number in decimal, an infinity, or no number at all. -/
def float? (s : List Char) : Option Float :=
  if s == ['.', 'n', 'a', 'n'] || s == ['.', 'N', 'a', 'N'] || s == ['.', 'N', 'A', 'N'] then
    some (0.0 / 0.0)
  else
    match s with
    | '+' :: '.' :: r =>
      if isWord ['i', 'n', 'f'] r then some infinity else finite? ('.' :: r)
    | '-' :: '.' :: r =>
      if isWord ['i', 'n', 'f'] r then some (-infinity) else (finite? ('.' :: r)).map (- ·)
    | '.' :: r => if isWord ['i', 'n', 'f'] r then some infinity else finite? ('.' :: r)
    | '+' :: r => finite? r
    | '-' :: r => (finite? r).map (- ·)
    | r => finite? r

def isNull (s : List Char) : Bool :=
  s == [] || s == ['~'] || isWord ['n', 'u', 'l', 'l'] s

def bool? (s : List Char) : Option Bool :=
  if isWord ['t', 'r', 'u', 'e'] s then some true
  else if isWord ['f', 'a', 'l', 's', 'e'] s then some false
  else none

def resolve (s : List Char) : Plain :=
  if isNull s then null
  else match bool? s with
    | some b => bool b
    | none =>
      match integer? s with
      | some n => integer n
      | none =>
        if hasLeadingZero s then text
        else match float? s with
          | some x => float x
          | none => text

/-- Would the text, unquoted, be read as itself? Digits after a leading zero are not left to
readers that take them for a number. -/
def isText (s : List Char) : Bool :=
  match resolve s with
  | text => !hasLeadingZero s
  | _ => false

end Plain

end TaskSynth.Yaml
