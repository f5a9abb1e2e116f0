import TaskSynth.Yaml.Character

namespace TaskSynth.Yaml

structure Mark where
  index : Nat
  line : Nat
  column : Nat
  deriving DecidableEq

def Mark.next (m : Mark) : Mark := ⟨m.index + 1, m.line, m.column + 1⟩

def Mark.nextLine (m : Mark) (width : Nat) : Mark := ⟨m.index + width, m.line + 1, 0⟩

structure Cursor where
  mark : Mark
  rest : List Char

namespace Cursor

def column (c : Cursor) : Nat := c.mark.column

def skip (count : Nat) (c : Cursor) : Cursor :=
  ⟨⟨c.mark.index + count, c.mark.line, c.mark.column + count⟩, c.rest.drop count⟩

def skipBreak (c : Cursor) : Cursor :=
  match c.rest with
  | '\r' :: '\n' :: rest => ⟨c.mark.nextLine 2, rest⟩
  | b :: rest => if isBreak b then ⟨c.mark.nextLine 1, rest⟩ else c
  | [] => c

/-- Moves over all characters of a class that holds no line end. -/
def skipWhile (p : Char → Bool) (c : Cursor) : Cursor := c.skip (c.rest.takeWhile p).length

/-- Moves over blanks and a comment to the end of the line; `none` if anything else is there. -/
def skipToLineEnd (c : Cursor) : Option Cursor :=
  let c := c.skipWhile isBlank
  let c := match c.rest with
    | '#' :: _ => c.skipWhile fun x => !isBreak x
    | _ => c
  match c.rest with
  | [] => some c
  | b :: _ => if isBreak b then some c.skipBreak else none

/-- Does a line start here that separates documents? -/
def atDocumentMark (c : Cursor) : Bool :=
  c.column == 0 &&
    match c.rest with
    | '-' :: '-' :: '-' :: rest => endsWord rest
    | '.' :: '.' :: '.' :: rest => endsWord rest
    | _ => false

end Cursor

/-- Blanks and line ends between two words. Once a line has ended its blanks do not count. -/
structure Gap where
  blanks : List Char
  broken : Bool
  firstBreak : Option Char
  moreBreaks : List Char

namespace Gap

def empty : Gap := ⟨[], false, none, []⟩

/-- A line that was ended by an escape. -/
def escaped : Gap := ⟨[], true, none, []⟩

def addBlank (g : Gap) (c : Char) : Gap :=
  if g.broken then g else { g with blanks := g.blanks ++ [c] }

def addBreak (g : Gap) (c : Char) : Gap :=
  if g.broken then { g with moreBreaks := g.moreBreaks ++ [c] }
  else ⟨[], true, some c, []⟩

/-- What a gap counts as: one line end is a space, further ones stay. -/
def text (g : Gap) : List Char :=
  if !g.broken then g.blanks
  else match g.firstBreak with
    | some '\n' => if g.moreBreaks.isEmpty then [' '] else g.moreBreaks
    | some c => c :: g.moreBreaks
    | none => g.moreBreaks

/-- Reads a gap to its end. A tab in the indentation, left of `floor`, is an error. -/
def read (floor : Nat) (g : Gap) (m : Mark) : List Char → Option (Gap × Cursor)
  | '\r' :: '\n' :: rest => read floor (g.addBreak '\n') (m.nextLine 2) rest
  | c :: rest =>
    if isBlank c then
      if g.broken && c == '\t' && m.column < floor then none
      else read floor (g.addBlank c) m.next rest
    else if isBreak c then read floor (g.addBreak (lineEnd c)) (m.nextLine 1) rest
    else some (g, ⟨m, c :: rest⟩)
  | [] => some (g, ⟨m, []⟩)

end Gap

end TaskSynth.Yaml
