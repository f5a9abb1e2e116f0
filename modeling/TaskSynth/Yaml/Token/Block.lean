import TaskSynth.Decimal.Reading
import TaskSynth.Yaml.Cursor

/-! Block scalars: lines below a mark, all indented alike. A literal block keeps its line ends, a
folded one joins neighbouring lines that do not start with a blank. -/
namespace TaskSynth.Yaml.Token

/-- What becomes of the line ends after the last line. -/
inductive Chomping where
  | strip | clip | keep
  deriving DecidableEq

structure BlockHeader where
  chomping : Chomping
  indentation : Option Nat

def chomping? : List Char → Option Chomping
  | '-' :: _ => some .strip
  | '+' :: _ => some .keep
  | _ => none

/-- One digit but zero, if there is any digit; the inner `none` is no digit. -/
def indentation? : List Char → Option (Option Nat)
  | '0' :: _ => none
  | c :: _ => some (if Decimal.isDigit c then some (Decimal.digitValue c) else none)
  | [] => some none

def blockHeader (c : Cursor) : Option (BlockHeader × Cursor) := do
  match chomping? c.rest with
  | some chomping =>
    let c := c.skip 1
    match ← indentation? c.rest with
    | some n => some (⟨chomping, some n⟩, c.skip 1)
    | none => some (⟨chomping, none⟩, c)
  | none =>
    match ← indentation? c.rest with
    | some n =>
      let c := c.skip 1
      match chomping? c.rest with
      | some chomping => some (⟨chomping, some n⟩, c.skip 1)
      | none => some (⟨.clip, some n⟩, c)
    | none => some (⟨.clip, none⟩, c)

/-- Spaces in front of a line, up to the given column. -/
def indentBefore (limit : Option Nat) (c : Cursor) : Nat :=
  let spaces := (c.rest.takeWhile (· == ' ')).length
  match limit with
  | some n => min spaces (n - c.column)
  | none => spaces

/-- Empty lines: their line ends, the widest indentation, and where the next line with text
starts. A tab in the indentation is an error. -/
def emptyLines (limit : Option Nat) : Nat → Nat → Cursor → Option (List Char × Nat × Cursor)
  | 0, _, _ => none
  | steps + 1, widest, c => do
    let c := c.skip (indentBefore limit c)
    let widest := max widest c.column
    let isIndenting := match limit with
      | some n => c.column < n
      | none => true
    match c.rest with
    | b :: _ =>
      if isIndenting && b == '\t' then none
      else if isBreak b then
        let (breaks, widest, after) ← emptyLines limit steps widest c.skipBreak
        some (lineEnd b :: breaks, widest, after)
      else some ([], widest, c)
    | [] => some ([], widest, c)

/-- The line end here as text, and the place after it. -/
def takeBreak (c : Cursor) : List Char × Cursor :=
  match c.rest with
  | b :: _ => if isBreak b then ([lineEnd b], c.skipBreak) else ([], c)
  | [] => ([], c)

structure BlockGap where
  first : List Char
  more : List Char

/-- What the line ends between two lines count as; blanks at the start of either line keep them. -/
def BlockGap.text (g : BlockGap) (folded startsBlank : Bool) : List Char :=
  if folded && g.first == ['\n'] && !startsBlank then
    (if g.more.isEmpty then [' '] else g.more)
  else g.first ++ g.more

def BlockGap.last (g : BlockGap) : Chomping → List Char
  | .strip => []
  | .clip => g.first
  | .keep => g.first ++ g.more

/-- The lines of a block from the first one on. `blankBefore` says that the line before starts
with a blank. -/
def blockLinesAt (folded : Bool) (chomping : Chomping) (indent : Nat) :
    Nat → BlockGap → Bool → Cursor → Option (List Char × Cursor)
  | 0, _, _, _ => none
  | steps + 1, g, blankBefore, c => do
    if c.column ≠ indent || c.rest.isEmpty then some (g.last chomping, c)
    else
      let startsBlank := c.rest.head?.any isBlank
      let line := c.rest.takeWhile fun x => !isBreak x
      let (first, next) := takeBreak (c.skip line.length)
      let (more, _, next) ← emptyLines (some indent) (next.rest.length + 1) 0 next
      let (text, after) ← blockLinesAt folded chomping indent steps ⟨first, more⟩ startsBlank next
      some (g.text folded (blankBefore || startsBlank) ++ line ++ text, after)

/-- A block scalar from its mark; `parent` is the column that the block has to exceed, plus one. -/
def block (folded : Bool) (parent : Nat) (c : Cursor) : Option (List Char × Cursor) := do
  let (header, c) ← blockHeader (c.skip 1)
  let c ← c.skipToLineEnd
  let limit := header.indentation.map fun n => (parent - 1) + n
  let (breaks, widest, c) ← emptyLines limit (c.rest.length + 1) 0 c
  let indent := limit.getD (max widest (max parent 1))
  blockLinesAt folded header.chomping indent (c.rest.length + 1) ⟨[], breaks⟩ false c

end TaskSynth.Yaml.Token
