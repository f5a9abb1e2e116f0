import TaskSynth.Yaml.Cursor

namespace TaskSynth.Yaml.Token

def isFlowIndicator (c : Char) : Bool :=
  c == ',' || c == '[' || c == ']' || c == '\x7b' || c == '\x7d'

/-- Is a colon in a flow collection followed by what cannot follow it? -/
def clashes (inFlow : Bool) (c : Char) (rest : List Char) : Bool :=
  inFlow && c == ':' &&
    match rest with
    | d :: _ => d == '?' || isFlowIndicator d
    | [] => false

/-- The characters up to a gap or to what ends the scalar. -/
def plainWord (inFlow : Bool) (m : Mark) : List Char → Option (List Char × Cursor)
  | [] => some ([], ⟨m, []⟩)
  | c :: rest =>
    if isGap c then some ([], ⟨m, c :: rest⟩)
    else if clashes inFlow c rest then none
    else if (c == ':' && endsWord rest) || (inFlow && isFlowIndicator c) then
      some ([], ⟨m, c :: rest⟩)
    else
      match plainWord inFlow m.next rest with
      | some (word, after) => some (c :: word, after)
      | none => none

structure PlainText where
  text : List Char
  broken : Bool
  after : Cursor

/-- Further words after a gap; `indent` is the least column of a line that belongs to the
scalar. -/
def plainWords (inFlow : Bool) (indent : Nat) : Nat → Gap → Cursor → Option PlainText
  | 0, _, _ => none
  | steps + 1, g, c => do
    if c.atDocumentMark || c.rest.head?.any (· == '#') then return ⟨[], g.broken, c⟩
    let (word, c) ← plainWord inFlow c.mark c.rest
    let shown := if word.isEmpty then [] else g.text ++ word
    let g := if word.isEmpty then g else .empty
    if !c.rest.head?.any fun x => isBlank x || isBreak x then return ⟨shown, g.broken, c⟩
    let (g, c) ← Gap.read indent g c.mark c.rest
    if !inFlow && c.column < indent then return ⟨shown, g.broken, c⟩
    let more ← plainWords inFlow indent steps g c
    return { more with text := shown ++ more.text }

def plain (inFlow : Bool) (indent : Nat) (c : Cursor) : Option PlainText :=
  plainWords inFlow indent (c.rest.length + 1) .empty c

end TaskSynth.Yaml.Token
