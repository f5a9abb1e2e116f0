/-! Sets and maps of code points, written as arithmetic spans. The tables of character
properties are lists of these; every lookup is a plain search. -/
namespace TaskSynth.Text

/-- Every `step`-th code point from `first` to `last`, both ends included. -/
structure Span where
  first : Nat
  last : Nat
  step : Nat

def Span.contains (s : Span) (n : Nat) : Bool :=
  s.first ≤ n && n ≤ s.last && (n - s.first) % s.step == 0

structure Shift where
  span : Span
  shift : Int

def covers (spans : List Span) (n : Nat) : Bool := spans.any (·.contains n)

/-- The image of a code point; one outside every span stays where it is. -/
def applyShift (shifts : List Shift) (n : Nat) : Nat :=
  match shifts.find? (·.span.contains n) with
  | some s => (n + s.shift).toNat
  | none => n

end TaskSynth.Text
