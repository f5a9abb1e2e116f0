import TaskSynth.Yaml.Token.Block
import TaskSynth.Yaml.Token.Mark
import TaskSynth.Yaml.Token.Plain
import TaskSynth.Yaml.Token.Quoted

/-! The tokens of a text. Indentation opens and closes block collections. Whether a node is the
key of a mapping shows only at the colon after it: the mark of the key is then put in front of
the tokens of the node. -/
namespace TaskSynth.Yaml

/-- Where a node starts that may turn out to be a key; one at the margin of its mapping must. -/
structure KeyPlace where
  required : Bool
  position : Nat
  mark : Mark

/-- Progress of reading. `keys` has one entry for every open flow collection and one for the
block context, the innermost first. `tokens` are the tokens so far, the latest first. -/
structure Lexer where
  cursor : Cursor
  indents : List Nat
  keys : List (Option KeyPlace)
  keyAllowed : Bool
  tokens : List Token
  count : Nat

namespace Lexer

def ofChars (s : List Char) : Lexer := ⟨⟨⟨0, 0, 0⟩, s⟩, [], [none], true, [], 0⟩

def inFlow (l : Lexer) : Bool := 1 < l.keys.length

def column (l : Lexer) : Nat := l.cursor.column

/-- The least column that lies deeper than the open block collections. -/
def deeper (l : Lexer) : Nat :=
  match l.indents with
  | [] => 0
  | n :: _ => n + 1

def emit (l : Lexer) (t : Token) : Lexer :=
  { l with tokens := t :: l.tokens, count := l.count + 1 }

/-- Puts a token in front of those from `position` on. -/
def insert (l : Lexer) (position : Nat) (t : Token) : Lexer :=
  let later := l.count - position
  { l with tokens := l.tokens.take later ++ t :: l.tokens.drop later, count := l.count + 1 }

def skip (l : Lexer) (count : Nat) : Lexer := { l with cursor := l.cursor.skip count }

def allowKey (l : Lexer) (allowed : Bool) : Lexer := { l with keyAllowed := allowed }

/-- Closes block collections that start right of a column. -/
def closeTo (l : Lexer) (keep : Nat → Bool) : Lexer :=
  let closed := (l.indents.takeWhile fun n => !keep n).length
  { l with
    indents := l.indents.drop closed
    tokens := List.replicate closed .blockEnd ++ l.tokens
    count := l.count + closed }

/-- Returns to a column; flow collections have no indentation. -/
def dedent (l : Lexer) : Lexer :=
  if l.inFlow then l else l.closeTo (· ≤ l.column)

def closeAll (l : Lexer) : Lexer := if l.inFlow then l else l.closeTo fun _ => false

/-- Opens a block collection at a column that lies deeper than all open ones. -/
def indentTo (l : Lexer) (column : Nat) (open_ : Lexer → Lexer) : Lexer :=
  if !l.inFlow && l.deeper ≤ column then { open_ l with indents := column :: l.indents } else l

/-- A key ends on its line, within 1024 characters. -/
def isStale (m : Mark) (k : KeyPlace) : Bool :=
  k.mark.line < m.line || k.mark.index + 1024 < m.index

/-- Gives up a possible key; one that is required must have come. -/
def forget : Option KeyPlace → Option (Option KeyPlace)
  | some k => if k.required then none else some none
  | none => some none

def expireKeys (l : Lexer) : Option Lexer := do
  let keys ← l.keys.mapM fun k =>
    if k.any (isStale l.cursor.mark) then forget k else some k
  some { l with keys := keys }

/-- Gives up the possible key of the innermost collection. -/
def dropKey (l : Lexer) : Option Lexer := do
  let k ← forget (l.keys.headD none)
  some { l with keys := k :: l.keys.tail }

def saveKey (l : Lexer) : Option Lexer :=
  if l.keyAllowed then do
    let required := !l.inFlow && l.indents.head? == some l.column
    let l ← l.dropKey
    some { l with keys := some ⟨required, l.count, l.cursor.mark⟩ :: l.keys.tail }
  else some l

/-- Moves to the next token over blanks, comments and line ends. Tabs are no blanks where a key
may start. -/
def skipSpace : Nat → Lexer → Lexer
  | 0, l => l
  | steps + 1, l =>
    let c := l.cursor
    let c := if c.mark.index == 0 && c.rest.head?.any isByteOrderMark then c.skip 1 else c
    let tabs := l.inFlow || !l.keyAllowed
    let c := c.skipWhile fun x => x == ' ' || (tabs && x == '\t')
    let c := match c.rest with
      | '#' :: _ => c.skipWhile fun x => !isBreak x
      | _ => c
    let l := { l with cursor := c }
    if c.rest.head?.any isBreak then
      skipSpace steps { l with
        cursor := c.skipBreak
        keyAllowed := l.keyAllowed || !l.inFlow }
    else l

/-- Takes what a reader of scalars, anchors or tags has read. -/
def take (l : Lexer) (read : Option (Token × Cursor)) : Option Lexer := do
  let (t, c) ← read
  some ({ l with cursor := c }.emit t)

def takeText (l : Lexer) (isPlain : Bool) (read : Option (List Char × Cursor)) : Option Lexer :=
  l.take (read.map fun (s, c) => (.scalar (String.ofList s) isPlain, c))

def takeName (l : Lexer) (token : String → Token) : Option Lexer :=
  l.take ((Token.anchorName l.cursor).map fun (name, c) => (token name, c))

def documentMark (l : Lexer) (t : Token) : Option Lexer := do
  let l ← l.closeAll.dropKey
  some (((l.allowKey false).skip 3).emit t)

def directive (l : Lexer) : Option Lexer := do
  let l ← l.closeAll.dropKey
  (l.allowKey false).take (Token.directive l.cursor)

def openFlow (l : Lexer) (t : Token) : Option Lexer := do
  let l ← l.saveKey
  some ((({ l with keys := none :: l.keys }.allowKey true).skip 1).emit t)

def closeFlow (l : Lexer) (t : Token) : Option Lexer := do
  let l ← l.dropKey
  let l := if l.inFlow then { l with keys := l.keys.tail } else l
  some (((l.allowKey false).skip 1).emit t)

def flowEntry (l : Lexer) : Option Lexer := do
  let l ← l.dropKey
  some (((l.allowKey true).skip 1).emit .flowEntry)

/-- A block entry or an explicit key or value opens its collection here if none is open. -/
def openHere (l : Lexer) (t : Token) : Option Lexer :=
  if l.inFlow then some l
  else if l.keyAllowed then some (l.indentTo l.column (·.emit t))
  else none

def blockEntry (l : Lexer) : Option Lexer := do
  let l ← (← l.openHere .blockSequence).dropKey
  some (((l.allowKey true).skip 1).emit .blockEntry)

def key (l : Lexer) : Option Lexer := do
  let l ← (← l.openHere .blockMapping).dropKey
  some (((l.allowKey !l.inFlow).skip 1).emit .key)

/-- A colon makes the possible key one, or stands for itself. -/
def value (l : Lexer) : Option Lexer := do
  let l ← match l.keys with
    | some k :: outer =>
      let l := l.insert k.position .key
      let l := l.indentTo k.mark.column (·.insert k.position .blockMapping)
      some ({ l with keys := none :: outer }.allowKey false)
    | _ =>
      let l ← l.openHere .blockMapping
      some (l.allowKey !l.inFlow)
  some ((l.skip 1).emit .value)

def named (l : Lexer) (token : String → Token) : Option Lexer := do
  ((← l.saveKey).allowKey false).takeName token

def tagged (l : Lexer) : Option Lexer := do
  let l := (← l.saveKey).allowKey false
  l.take (Token.tagAt l.inFlow l.cursor)

def block (l : Lexer) (folded : Bool) : Option Lexer := do
  let l := (← l.dropKey).allowKey true
  l.takeText false (Token.block folded l.deeper l.cursor)

def quoted (l : Lexer) (double : Bool) : Option Lexer := do
  let l := (← l.saveKey).allowKey false
  l.takeText false (Token.quoted double l.cursor)

/-- A scalar that spans lines leaves a place where a key may start. -/
def plain (l : Lexer) : Option Lexer := do
  let l := (← l.saveKey).allowKey false
  let p ← Token.plain l.inFlow l.deeper l.cursor
  some (({ l with cursor := p.after }.emit (.scalar (String.ofList p.text) true)).allowKey p.broken)

/-- Characters that start no unquoted scalar, unless what follows allows it. -/
def isReserved (c : Char) : Bool :=
  ['-', '?', ':', ',', '[', ']', '\x7b', '\x7d', '#', '&', '*', '!', '|', '>', '\x27', '"', '%',
    '@', '\x60'].elem c

def startsPlain (inFlow : Bool) (c : Char) (rest : List Char) : Bool :=
  !(isGap c || isReserved c) ||
    (c == '-' && !rest.head?.any isBlank) ||
    (!inFlow && (c == '?' || c == ':') && !endsWord rest)

def token (l : Lexer) (c : Char) (rest : List Char) : Option Lexer :=
  if l.cursor.atDocumentMark then
    l.documentMark (if c == '-' then .documentStart else .documentEnd)
  else if l.column == 0 && c == '%' then l.directive
  else if c == '-' && endsWord rest then l.blockEntry
  else if c == '?' && (l.inFlow || endsWord rest) then l.key
  else if c == ':' && (l.inFlow || endsWord rest) then l.value
  else match c with
    | '[' => l.openFlow .flowSequence
    | '\x7b' => l.openFlow .flowMapping
    | ']' => l.closeFlow .flowSequenceEnd
    | '\x7d' => l.closeFlow .flowMappingEnd
    | ',' => l.flowEntry
    | '*' => l.named .reference
    | '&' => l.named .anchor
    | '!' => l.tagged
    | '\x27' => l.quoted false
    | '"' => l.quoted true
    | c =>
      if c == '|' && !l.inFlow then l.block false
      else if c == '>' && !l.inFlow then l.block true
      else if startsPlain l.inFlow c rest then l.plain
      else none

def run : Nat → Lexer → Option Lexer
  | 0, _ => none
  | steps + 1, l => do
    let l ← (skipSpace (l.cursor.rest.length + 1) l).expireKeys
    match l.cursor.rest with
    | [] => l.closeAll.dropKey
    | c :: rest => run steps (← l.dedent.token c rest)

end Lexer

/-- The tokens of a text, or `none` if it has no reading. -/
def tokens (text : List Char) : Option (List Token) :=
  if text.all isReadable then do
    let text := if text.head?.any isByteOrderMark then text.tail else text
    let l ← (Lexer.ofChars text).run (text.length + 2)
    some l.tokens.reverse
  else none

end TaskSynth.Yaml
