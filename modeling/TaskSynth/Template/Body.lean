import TaskSynth.Template.Grammar
import TaskSynth.Text.Blank

namespace TaskSynth.Template

/-- Text, or the nodes of a tag with the dashes at its two outer ends. -/
inductive Piece where
  | text (s : List Char)
  | tag (left right : Bool) (nodes : List Node)

/-- Where a piece stands: loops may be left early, and blocks stand in no loop. After the
`else` of a loop dashes have no effect. -/
structure Place where
  inLoop : Bool
  outermost : Bool
  trims : Bool

def Piece.leftDash : List Piece → Bool → Bool
  | .tag left _ _ :: _, _ => left
  | .text _ :: _, _ => false
  | [], close => close

/-- The nodes of pieces that stand between an opening and a closing dash. -/
def settle (openDash closeDash : Bool) : List Piece → List Node
  | [] => []
  | .text s :: rest =>
    let s := if openDash then Text.dropBlank s else s
    let s := if Piece.leftDash rest closeDash then Text.dropBlankEnd s else s
    .text s :: settle false closeDash rest
  | .tag _ right nodes :: rest => nodes ++ settle right closeDash rest

def Place.settle (place : Place) (openDash closeDash : Bool) (pieces : List Piece) : List Node :=
  if place.trims then Template.settle openDash closeDash pieces
  else Template.settle false false (pieces.map fun
    | .text s => .text s
    | .tag _ _ nodes => .tag false false nodes)

/-- The start of a tag, and whether it has a dash. -/
def open? (mark : String) (cs : List Char) : Option (Bool × List Char) :=
  match strip? (mark ++ "-") cs with
  | some rest => some (true, rest)
  | none => (strip? mark cs).map fun rest => (false, rest)

/-- The end of a tag after spaces, and whether it has a dash. -/
def close? (mark : String) (cs : List Char) : Option (Bool × List Char) :=
  match symbol? ("-" ++ mark) cs with
  | some rest => some (true, rest)
  | none => (symbol? mark cs).map fun rest => (false, rest)

def outputOpen : String := "\x7b\x7b"
def outputClose : String := "\x7d\x7d"
def tagOpen : String := "\x7b%"
def tagClose : String := "%\x7d"
def commentOpen : String := "\x7b#"
def commentClose : String := "#\x7d"

def wordTag? (word : String) (cs : List Char) : Option ((Bool × Bool) × List Char) := do
  let (left, rest) ← open? tagOpen cs
  let rest ← symbol? word rest
  let (right, rest) ← close? tagClose rest
  some ((left, right), rest)

/-- The start of a tag whose word is followed by a space and more. -/
def startTag? (word : String) (cs : List Char) : Option (Bool × List Char) := do
  let (left, rest) ← open? tagOpen cs
  let rest ← wordThenSpace? word (skipSpace rest)
  some (left, skipSpace rest)

/-- The end of a block or macro, which may repeat the name. -/
def endTag? (word : String) (cs : List Char) : Option ((Bool × Bool) × List Char) := do
  let (left, rest) ← open? tagOpen cs
  let rest ← symbol? word rest
  let rest := match name? (skipSpace rest) with
    | some (_, rest) => rest
    | none => rest
  let (right, rest) ← close? tagClose rest
  some ((left, right), rest)

def startsTag : List Char → Bool
  | '\x7b' :: c :: _ => c == '\x7b' || c == '%' || c == '#'
  | _ => false

/-- The characters before the next tag; `seen` is reversed. -/
def plainText (seen : List Char) : List Char → List Char × List Char
  | [] => (seen.reverse, [])
  | c :: rest =>
    if startsTag (c :: rest) then (seen.reverse, c :: rest) else plainText (c :: seen) rest

/-- The inside of a comment and the dash at its end. -/
def commentEnd? : List Char → Option (Bool × List Char)
  | [] => none
  | c :: rest =>
    match open? commentClose (c :: rest) with
    | some (_, tail) => some (false, tail)
    | none =>
      if c == '-' && commentClose.toList.isPrefixOf rest then
        some (true, rest.drop commentClose.length)
      else commentEnd? rest

def rawEnd? (seen : List Char) : List Char → Option (List Char × (Bool × Bool) × List Char)
  | [] => none
  | c :: rest =>
    match wordTag? "endraw" (c :: rest) with
    | some (dashes, tail) => some (seen.reverse, dashes, tail)
    | none => rawEnd? (c :: seen) rest

def comment? (cs : List Char) : Option (Piece × List Char) := do
  let (left, rest) ← open? commentOpen cs
  let (right, rest) ← commentEnd? rest
  some (.tag left right [], rest)

def raw? (place : Place) (cs : List Char) : Option (Piece × List Char) := do
  let ((left, openDash), rest) ← wordTag? "raw" cs
  let (s, (closeDash, right), rest) ← rawEnd? [] rest
  some (.tag left right (place.settle openDash closeDash [.text s]), rest)

def names? (found : List String) : Nat → List Char → Option (List String × List Char)
  | 0, _ => none
  | steps + 1, cs =>
    match symbol? "]" cs with
    | some rest => some (found.reverse, rest)
    | none => do
      let (s, rest) ← string? (skipSpace cs)
      match symbol? "," rest with
      | some rest => names? (s :: found) steps rest
      | none =>
        let rest ← symbol? "]" rest
        some ((s :: found).reverse, rest)

def embed? (cs : List Char) : Option (Piece × List Char) := do
  let (left, rest) ← startTag? "include" cs
  let (names, rest) ← match string? rest with
    | some (s, rest) => some ([s], rest)
    | none => do names? [] rest.length (← strip? "[" rest)
  let (mayMiss, rest) := match wordThenSpace? "ignore" (skipSpace rest) with
    | some more =>
      match symbol? "missing" more with
      | some more => (true, more)
      | none => (false, rest)
    | none => (false, rest)
  let (right, rest) ← close? tagClose rest
  some (.tag left right [.embed names mayMiss], rest)

def output? (steps : Nat) (cs : List Char) : Option (Piece × List Char) := do
  let (left, rest) ← open? outputOpen cs
  let (e, rest) ← value? steps rest
  let (right, rest) ← close? outputClose rest
  some (.tag left right [.output e], rest)

def assign? (everywhere : Bool) (steps : Nat) (cs : List Char) : Option (Piece × List Char) := do
  let (left, rest) ← startTag? (if everywhere then "set_global" else "set") cs
  let (name, rest) ← name? rest
  let rest ← symbol? "=" rest
  let (e, rest) ← value? steps rest
  let (right, rest) ← close? tagClose rest
  some (.tag left right [.assign everywhere name e], rest)

def jump? (cs : List Char) : Option (Piece × List Char) :=
  match wordTag? "break" cs with
  | some ((left, right), rest) => some (.tag left right [.stop], rest)
  | none =>
    match wordTag? "continue" cs with
    | some ((left, right), rest) => some (.tag left right [.skip], rest)
    | none => none

/-- The head of a loop: the names it binds and what it runs over. -/
def loopHead? (steps : Nat) (cs : List Char) :
    Option ((Bool × Option String × String × Expr × Bool) × List Char) := do
  let (left, rest) ← startTag? "for" cs
  let (first, rest) ← name? rest
  let (key, value, rest) ← match strip? "," rest with
    | some more => do
      let (second, rest) ← name? (skipSpace more)
      some (some first, second, rest)
    | none => some (none, first, rest)
  let c :: _ := rest | none
  let rest ← if isSpace c then wordThenSpace? "in" (skipSpace rest) else none
  let (container, rest) ← match arithFiltered? steps (skipSpace rest) with
    | some r => some r
    | none => arrayFiltered? steps (skipSpace rest)
  let (right, rest) ← close? tagClose rest
  some ((left, key, value, container, right), rest)

def macroParameters? : Nat → List Char → Option (List Char)
  | 0, _ => none
  | steps + 1, cs => do
    let (_, rest) ← name? (skipSpace cs)
    let rest := match symbol? "=" rest with
      | none => some rest
      | some more =>
        let more := skipSpace more
        (bool? more).map Prod.snd <|> (string? more).map Prod.snd <|>
          (float? more).map Prod.snd <|> (integer? more).map Prod.snd
    let rest ← rest
    match symbol? "," rest with
    | some more => macroParameters? steps more
    | none => symbol? ")" rest

def macroHead? (cs : List Char) : Option ((Bool × String × Bool) × List Char) := do
  let (left, rest) ← startTag? "macro" cs
  let (name, rest) ← name? rest
  let rest ← symbol? "(" rest
  let rest ← match symbol? ")" rest with
    | some rest => some rest
    | none => macroParameters? (rest.length + 1) rest
  let (right, rest) ← close? tagClose rest
  some ((left, name, right), rest)

mutual

def pieces (place : Place) (found : List Piece) : Nat → List Char → List Piece × List Char
  | 0, cs => (found.reverse, cs)
  | steps + 1, cs =>
    match piece? place steps cs with
    | some (p, rest) => pieces place (p :: found) steps rest
    | none => (found.reverse, cs)

def piece? (place : Place) : Nat → List Char → Option (Piece × List Char)
  | 0, _ => none
  | _, [] => none
  | steps + 1, cs =>
    if !startsTag cs then
      let (s, rest) := plainText [] cs
      some (.text s, rest)
    else match output? steps cs with
    | some r => some r
    | none =>
    match comment? cs with
    | some r => some r
    | none =>
    match raw? place cs with
    | some r => some r
    | none =>
    match embed? cs with
    | some r => some r
    | none =>
    match assign? false steps cs with
    | some r => some r
    | none =>
    match assign? true steps cs with
    | some r => some r
    | none =>
    match if place.inLoop then jump? cs else none with
    | some r => some r
    | none =>
    match choice? place steps cs with
    | some r => some r
    | none =>
    match loop? place steps cs with
    | some r => some r
    | none =>
    match filterSection? place steps cs with
    | some r => some r
    | none =>
    if place.inLoop then none
    else match block? place steps cs with
    | some r => some r
    | none => if place.outermost then macro? place steps cs else none

def choice? (place : Place) : Nat → List Char → Option (Piece × List Char)
  | 0, _ => none
  | steps + 1, cs => do
    let (left, rest) ← startTag? "if" cs
    let (condition, rest) ← logic? steps rest
    let (openDash, rest) ← close? tagClose rest
    let (branches, otherwise, right, rest) ←
      branches? { place with outermost := false } condition openDash [] steps rest
    some (.tag left right [.choice branches otherwise], rest)

/-- The branch of a condition that has been read, those after it, and the end. -/
def branches? (place : Place) (condition : Expr) (openDash : Bool)
    (found : List (Expr × List Node)) :
    Nat → List Char → Option (List (Expr × List Node) × List Node × Bool × List Char)
  | 0, _ => none
  | steps + 1, cs => do
    let (body, rest) := pieces place [] steps cs
    match startTag? "elif" rest with
    | some (left, rest) =>
      let (next, rest) ← logic? steps rest
      let (right, rest) ← close? tagClose rest
      branches? place next right ((condition, place.settle openDash left body) :: found) steps rest
    | none =>
      match wordTag? "else" rest with
      | some ((left, right), rest) =>
        let (last, rest) := pieces place [] steps rest
        let ((endLeft, endRight), rest) ← wordTag? "endif" rest
        let branches := ((condition, place.settle openDash left body) :: found).reverse
        some (branches, place.settle right endLeft last, endRight, rest)
      | none =>
        let ((endLeft, endRight), rest) ← wordTag? "endif" rest
        let branches := ((condition, place.settle openDash endLeft body) :: found).reverse
        some (branches, [], endRight, rest)

def loop? (place : Place) : Nat → List Char → Option (Piece × List Char)
  | 0, _ => none
  | steps + 1, cs => do
    let ((left, key, value, container, openDash), rest) ← loopHead? steps cs
    let inner : Place := { place with inLoop := true, outermost := false }
    let (body, rest) := pieces inner [] steps rest
    let (whenEmpty, rest) := match wordTag? "else" rest with
      | some (_, rest) => pieces { inner with trims := false } [] steps rest
      | none => ([], rest)
    let ((closeDash, right), rest) ← wordTag? "endfor" rest
    some (.tag left right [.loop key value container (inner.settle openDash closeDash body)
      (settle false false whenEmpty)], rest)

def filterSection? (place : Place) : Nat → List Char → Option (Piece × List Char)
  | 0, _ => none
  | steps + 1, cs => do
    let (left, rest) ← startTag? "filter" cs
    let (filter, rest) ← match call? steps rest with
      | some r => some r
      | none => (name? rest).map fun (name, rest) => ((name, []), rest)
    let (openDash, rest) ← close? tagClose rest
    let inner := { place with outermost := false }
    let (body, rest) := pieces inner [] steps rest
    let ((closeDash, right), rest) ← wordTag? "endfilter" rest
    some (.tag left right [.filtered filter (inner.settle openDash closeDash body)], rest)

def block? (place : Place) : Nat → List Char → Option (Piece × List Char)
  | 0, _ => none
  | steps + 1, cs => do
    let (left, rest) ← startTag? "block" cs
    let (name, rest) ← name? rest
    let (openDash, rest) ← close? tagClose rest
    let inner := { place with outermost := false }
    let (body, rest) := pieces inner [] steps rest
    let ((closeDash, right), rest) ← endTag? "endblock" rest
    some (.tag left right [.block name (inner.settle openDash closeDash body)], rest)

def macro? (place : Place) : Nat → List Char → Option (Piece × List Char)
  | 0, _ => none
  | steps + 1, cs => do
    let ((left, name, _), rest) ← macroHead? cs
    let (_, rest) := pieces { place with outermost := false } [] steps rest
    let ((_, right), rest) ← endTag? "endmacro" rest
    some (.tag left right [.macroDefinition name], rest)

end

structure Preamble where
  parent : Option String
  imports : List String

def extends? (cs : List Char) : Option (String × List Char) := do
  let (_, rest) ← startTag? "extends" cs
  let (parent, rest) ← string? rest
  let (_, rest) ← close? tagClose rest
  some (parent, rest)

def import? (cs : List Char) : Option (String × List Char) := do
  let (_, rest) ← startTag? "import" cs
  let (file, rest) ← string? rest
  let c :: _ := rest | none
  let rest ← if isSpace c then wordThenSpace? "as" (skipSpace rest) else none
  let (_, rest) ← name? (skipSpace rest)
  let (_, rest) ← close? tagClose rest
  some (file, rest)

/-- Spaces and comments, which may stand before a preamble. -/
def skipComments : Nat → List Char → List Char
  | 0, cs => cs
  | steps + 1, cs =>
    match comment? (skipSpace cs) with
    | some (_, rest) => skipComments steps rest
    | none => skipSpace cs

def imports (found : List String) : Nat → List Char → List String × List Char
  | 0, cs => (found.reverse, cs)
  | steps + 1, cs =>
    match import? (skipComments steps cs) with
    | some (file, rest) => imports (file :: found) steps rest
    | none => (found.reverse, cs)

def preamble (cs : List Char) : Preamble × List Char :=
  let (parent, cs) := match extends? (skipComments cs.length cs) with
    | some (parent, rest) => (some parent, rest)
    | none => (none, cs)
  let (files, cs) := imports [] (cs.length + 1) cs
  (⟨parent, files⟩, cs)

end TaskSynth.Template
