import TaskSynth.Yaml.Token.Lexer

/-! The nodes of a document. An alias holds the number of its anchor. Numbers count the names in
use, so a name that is taken again shares its number with the next new one; the anchor that
comes last in the text then stands for both. -/
namespace TaskSynth.Yaml

structure Scalar where
  text : String
  tag : Option String
  plain : Bool
  deriving DecidableEq

def Scalar.empty : Scalar := ⟨"", none, true⟩

inductive Node where
  | scalar (s : Scalar)
  | sequence (tag : Option String) (items : List Node)
  | mapping (tag : Option String) (entries : List (Node × Node))
  | reference (anchor : Nat)
  deriving Inhabited

/-- A document. Anchors lead to positions and positions to nodes; `size` counts the scalars, the
aliases, and both ends of each collection. A text without a document has no root. -/
structure Document where
  root : Option Node
  anchors : List (Nat × Nat)
  nodes : List (Nat × Node)
  size : Nat

def Document.find? (d : Document) (anchor : Nat) : Option Node := do
  d.nodes.lookup (← d.anchors.lookup anchor)

namespace Node

structure Progress where
  tokens : List Token
  handles : List (String × String)
  size : Nat
  names : List (String × Nat)
  anchors : List (Nat × Nat)
  nodes : List (Nat × Node)

abbrev Builder := StateT Progress Option

def peek : Builder (Option Token) := do return (← get).tokens.head?

def advance : Builder Unit := modify fun p => { p with tokens := p.tokens.tail }

/-- Counts an end of a collection, a scalar or an alias. -/
def count : Builder Unit := modify fun p => { p with size := p.size + 1 }

/-- Is one of these tokens next? The end of the text is none of them. -/
def isNext (ts : List Token) : Builder Bool := do
  match ← peek with
  | some t => return ts.elem t
  | none => return false

def expect (t : Token) : Builder Unit := do
  if ← isNext [t] then advance else failure

def empty : Builder Node := do
  count
  return .scalar .empty

structure Properties where
  anchor : Option String
  tag : Option String

def resolveTag (handle suffix : String) : Builder String := do
  if handle = "" then return suffix
  else
    match (← get).handles.lookup handle with
    | some start => return start ++ suffix
    | none => failure

def properties : Builder Properties := do
  match ← peek with
  | some (.anchor name) =>
    advance
    match ← peek with
    | some (.tag handle suffix) =>
      advance
      return ⟨some name, some (← resolveTag handle suffix)⟩
    | _ => return ⟨some name, none⟩
  | some (.tag handle suffix) =>
    advance
    match ← peek with
    | some (.anchor name) =>
      advance
      return ⟨some name, some (← resolveTag handle suffix)⟩
    | _ => return ⟨none, some (← resolveTag handle suffix)⟩
  | _ => return ⟨none, none⟩

/-- Declares the anchor of the node that starts here. -/
def declare (name : String) : Builder Unit :=
  modify fun p =>
    let number := p.names.length
    { p with
      names := (name, number) :: p.names.filter fun e => e.1 != name
      anchors := (number, p.size) :: p.anchors }

def useAlias (name : String) : Builder Node := do
  match (← get).names.lookup name with
  | some anchor =>
    count
    return .reference anchor
  | none => failure

/-- The tag of a scalar with text; the mark of no tag leaves it out. -/
def scalarTag (tag : Option String) : Option String := tag.filter (· ≠ "!")

mutual

/-- A node. In a flow collection no block collection may start; as a value of a mapping a list
may start at the margin of its key. -/
def node (block atMargin : Bool) : Nat → Builder Node
  | 0 => failure
  | steps + 1 => do
    match ← peek with
    | some (.reference name) =>
      advance
      useAlias name
    | _ =>
      let p ← properties
      let position := (← get).size
      match p.anchor with
      | some name =>
        declare name
        let n ← content block atMargin p steps
        modify fun q => { q with nodes := (position, n) :: q.nodes }
        return n
      | none => content block atMargin p steps

def content (block atMargin : Bool) (p : Properties) : Nat → Builder Node
  | 0 => failure
  | steps + 1 => do
    match ← peek with
    | some (.scalar text isPlain) =>
      advance
      count
      return .scalar ⟨text, scalarTag p.tag, isPlain⟩
    | some .flowSequence =>
      advance
      count
      return .sequence p.tag (← flowItems true steps)
    | some .flowMapping =>
      advance
      count
      return .mapping p.tag (← flowEntries true steps)
    | t =>
      if atMargin && t == some .blockEntry then
        count
        return .sequence p.tag (← marginItems steps)
      else if block && t == some .blockSequence then
        advance
        count
        return .sequence p.tag (← blockItems steps)
      else if block && t == some .blockMapping then
        advance
        count
        return .mapping p.tag (← blockEntries steps)
      else if p.anchor.isSome || p.tag.isSome then
        count
        return .scalar { Scalar.empty with tag := p.tag }
      else failure

def blockItems : Nat → Builder (List Node)
  | 0 => failure
  | steps + 1 => do
    if ← isNext [.blockEnd] then
      advance
      count
      return []
    else
      expect .blockEntry
      let item ← if ← isNext [.blockEntry, .blockEnd] then empty else node true false steps
      return item :: (← blockItems steps)

/-- The items of a list that stands at the margin of its key. -/
def marginItems : Nat → Builder (List Node)
  | 0 => failure
  | steps + 1 => do
    if ← isNext [.blockEntry] then
      advance
      let item ← if ← isNext [.blockEntry, .key, .value, .blockEnd] then empty
        else node true false steps
      return item :: (← marginItems steps)
    else
      count
      return []

def blockEntries : Nat → Builder (List (Node × Node))
  | 0 => failure
  | steps + 1 => do
    if ← isNext [.blockEnd] then
      advance
      count
      return []
    else
      expect .key
      let key ← if ← isNext [.key, .value, .blockEnd] then empty else node true true steps
      let value ← if ← isNext [.value] then blockValue steps else empty
      return (key, value) :: (← blockEntries steps)

def blockValue : Nat → Builder Node
  | 0 => failure
  | steps + 1 => do
    advance
    if ← isNext [.key, .value, .blockEnd] then empty else node true true steps

def flowItems (first : Bool) : Nat → Builder (List Node)
  | 0 => failure
  | steps + 1 => do
    if ← isNext [.flowSequenceEnd] then
      advance
      count
      return []
    else
      if !first then expect .flowEntry
      if ← isNext [.flowSequenceEnd] then flowItems false steps
      else
        let item ← if ← isNext [.key] then flowPair steps else node false false steps
        return item :: (← flowItems false steps)

/-- A single entry of a mapping as an item. A key that is missing takes the next token with it. -/
def flowPair : Nat → Builder Node
  | 0 => failure
  | steps + 1 => do
    advance
    count
    let key ←
      if ← isNext [.value, .flowEntry, .flowSequenceEnd] then
        advance
        empty
      else node false false steps
    let value ← if ← isNext [.value] then flowValue .flowSequenceEnd steps else empty
    count
    return .mapping none [(key, value)]

def flowValue (close : Token) : Nat → Builder Node
  | 0 => failure
  | steps + 1 => do
    advance
    if ← isNext [.flowEntry, close] then empty else node false false steps

def flowEntries (first : Bool) : Nat → Builder (List (Node × Node))
  | 0 => failure
  | steps + 1 => do
    if ← isNext [.flowMappingEnd] then
      advance
      count
      return []
    else
      if !first then expect .flowEntry
      if ← isNext [.flowMappingEnd] then flowEntries false steps
      else if ← isNext [.key] then
        advance
        let key ← if ← isNext [.value, .flowEntry, .flowMappingEnd] then empty
          else node false false steps
        let value ← if ← isNext [.value] then flowValue .flowMappingEnd steps else empty
        return (key, value) :: (← flowEntries false steps)
      else
        let key ← node false false steps
        let value ← empty
        return (key, value) :: (← flowEntries false steps)

end

end Node

def standardHandles : List (String × String) := [("!", "!"), ("!!", "tag:yaml.org,2002:")]

/-- Directives in front of a document: the handles they declare, and what follows. A version is
given at most once, a handle is declared at most once. -/
def directives (versioned : Bool) (handles : List (String × String)) :
    List Token → Option (List (String × String) × List Token)
  | .version major minor :: rest =>
    if !versioned && major = 1 && (minor = 1 || minor = 2) then directives true handles rest
    else none
  | .shorthand name expansion :: rest =>
    if (handles.lookup name).isSome then none
    else directives versioned ((name, expansion) :: handles) rest
  | rest => some (handles, rest)

def isDirective : Token → Bool
  | .version .. => true
  | .shorthand .. => true
  | _ => false

/-- What may follow a document that has no content. -/
def endsDocument : List Token → Bool
  | [] => true
  | t :: _ => isDirective t || t == .documentStart || t == .documentEnd

def Document.ofTokens? (tokens : List Token) : Option Document :=
  match tokens with
  | [] => some ⟨none, [], [], 1⟩
  | t :: _ => do
    let isMarked := isDirective t || t == .documentStart
    let (handles, body) ← directives false [] tokens
    let body ← match isMarked, body with
      | false, body => some body
      | true, .documentStart :: body => some body
      | true, _ => none
    let start : Node.Progress := ⟨body, handles ++ standardHandles, 0, [], [], []⟩
    let reading := if isMarked && endsDocument body then Node.empty
      else Node.node true false (8 * tokens.length + 16)
    let (root, p) ← reading start
    if p.tokens.all (· == .documentEnd) then some ⟨some root, p.anchors, p.nodes, p.size⟩ else none

/-- Reads a text that holds one document, or none. -/
def Document.parse (text : String) : Option Document := do
  Document.ofTokens? (← tokens text.toList)

end TaskSynth.Yaml
