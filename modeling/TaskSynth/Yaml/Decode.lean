import TaskSynth.Content
import TaskSynth.Decimal.Word
import TaskSynth.Yaml.Node
import TaskSynth.Yaml.Plain

/-! Nodes read as values. Aliases are followed where a value is asked for, so a node can count
many times; how often is limited by the size of the document, and how deep by a given depth.
What nobody asks for is not looked at. -/
namespace TaskSynth.Yaml

/-- What an unquoted or tagged scalar stands for, `none` if its tag does not fit or has no
meaning here. -/
def Scalar.resolve (s : Scalar) : Option Plain :=
  let text := s.text.toList
  match s.tag with
  | none => some (if s.plain then Plain.resolve text else .text)
  | some "tag:yaml.org,2002:null" =>
    if !text.isEmpty && Plain.isNull text then some .null else none
  | some "tag:yaml.org,2002:bool" => (Plain.bool? text).map .bool
  | some "tag:yaml.org,2002:int" => (Plain.integer? text).map .integer
  | some "tag:yaml.org,2002:float" => (Plain.float? text).map .float
  | some tag => if tag.toList.head? == some '!' then none else some .text

/-- Tags of the document's own have no meaning. -/
def isForeign (tag : Option String) : Bool := tag.any fun t => t.toList.head? == some '!'

/-- Integers that fit into 64 bits, signed or unsigned. -/
def fitsWord (n : Int) : Bool := Decimal.fitsSigned n || Decimal.fitsUnsigned n

/-- Reading of a document; the state is how many aliases may still be followed. -/
abbrev Decoder := ReaderT Document (StateT Nat Option)

namespace Decoder

def fail {α : Type} : Decoder α := fun _ _ => none

def check (b : Bool) : Decoder Unit := if b then pure () else fail

/-- The node that counts: an alias leads to the node of its anchor. -/
def follow : Node → Decoder Node
  | .reference anchor => do
    let left ← get
    check (left ≠ 0)
    set (left - 1)
    match (← read).find? anchor with
    | some n => return n
    | none => fail
  | n => return n

def text (n : Node) : Decoder String := do
  match ← follow n with
  | .scalar s => return s.text
  | _ => fail

def isEmptyPlain (s : Scalar) : Bool := s.plain && s.text == ""

/-- The items of a list; nothing counts as no items. -/
def items (n : Node) : Decoder (List Node) := do
  match ← follow n with
  | .sequence _ items => return items
  | .scalar s => check (isEmptyPlain s); return []
  | _ => fail

/-- The entries of a mapping; nothing counts as no entries. -/
def entries (n : Node) : Decoder (List (Node × Node)) := do
  match ← follow n with
  | .mapping _ entries => return entries
  | .scalar s => check (isEmptyPlain s); return []
  | _ => fail

def list {α : Type} (read : Node → Decoder α) (n : Node) : Decoder (List α) := do
  (← items n).mapM read

/-- The known fields of a mapping; none of them may be repeated. -/
def fields (known : List String) (n : Node) : Decoder (List (String × Node)) := do
  let named ← (← entries n).mapM fun (k, v) => do return (← text k, v)
  let found := named.filter fun e => known.elem e.1
  check (decide (found.map Prod.fst).Nodup)
  return found

def required {α : Type} (found : List (String × Node)) (name : String)
    (read : Node → Decoder α) : Decoder α :=
  match found.lookup name with
  | some n => read n
  | none => fail

def optional {α : Type} (found : List (String × Node)) (name : String) (default : α)
    (read : Node → Decoder α) : Decoder α :=
  match found.lookup name with
  | some n => read n
  | none => return default

def jsonScalar (s : Scalar) : Decoder Json.Value :=
  match s.resolve with
  | some .null => return .null
  | some (.bool b) => return .bool b
  | some (.integer n) => do
    check (fitsWord n)
    return .number (.integer n)
  | some (.float x) => return if x.isNaN || x.isInf then .null else .number (.float x)
  | some .text => return .string s.text
  | none => fail

/-- A value; its keys are read as they are written. -/
def json : Nat → Node → Decoder Json.Value
  | 0, n => do
    match ← follow n with
    | .scalar s => jsonScalar s
    | _ => fail
  | depth + 1, n => do
    match ← follow n with
    | .scalar s => jsonScalar s
    | .sequence tag items =>
      check (!isForeign tag)
      return .array (← items.mapM (json depth))
    | .mapping tag entries =>
      check (!isForeign tag)
      let entries ← entries.mapM fun (k, v) => do return (← text k, ← json depth v)
      return .object (entries.foldl (fun es (k, v) => Json.insertEntry es k v) [])
    | .reference _ => fail

def contentScalar (s : Scalar) : Decoder Content :=
  match s.resolve with
  | some .null => return .null
  | some (.bool b) => return .bool b
  | some (.integer n) => do
    check (fitsWord n)
    return .number (.integer n)
  | some (.float x) => return .number (.float x)
  | some .text => return .text s.text
  | none => fail

/-- A content; its keys are values like any other. -/
def content : Nat → Node → Decoder Content
  | 0, n => do
    match ← follow n with
    | .scalar s => contentScalar s
    | _ => fail
  | depth + 1, n => do
    match ← follow n with
    | .scalar s => contentScalar s
    | .sequence tag items =>
      check (!isForeign tag)
      return .sequence (← items.mapM (content depth))
    | .mapping tag entries =>
      check (!isForeign tag)
      return .mapping (← entries.mapM fun (k, v) => do
        return (← content depth k, ← content depth v))
    | .reference _ => fail

/-- A content whose variant is selected by name: by a key, or by the first item of a list. The
name is read as it is written. -/
def variantContent (key : String) : Nat → Node → Decoder Content
  | 0, n => content 0 n
  | depth + 1, n => do
    match ← follow n with
    | .scalar s => contentScalar s
    | .sequence tag (name :: items) =>
      check (!isForeign tag)
      return .sequence (.text (← text name) :: (← items.mapM (content depth)))
    | .sequence _ [] => return .sequence []
    | .mapping tag entries =>
      check (!isForeign tag)
      return .mapping (← entries.mapM fun (k, v) => do
        match ← content depth k with
        | .text name =>
          if name = key then return (.text name, .text (← text v))
          else return (.text name, ← content depth v)
        | k => return (k, ← content depth v))
    | .reference _ => fail

/-- Runs a reading of the root. A document without a root gives the default. -/
def run {α : Type} (default : α) (read : Node → Decoder α) (d : Document) : Option α :=
  match d.root with
  | none => some default
  | some n => ((ReaderT.run (read n) d).run (100 * d.size)).map Prod.fst

end Decoder

end TaskSynth.Yaml
