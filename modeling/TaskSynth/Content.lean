import TaskSynth.Json.Printer
import TaskSynth.Text.Quoted

/-! A structured value of either input format before it is given a meaning, and what can be
wrong with one. Keys of a mapping are contents themselves: a key that is written as a number
or as nothing is no text. -/
namespace TaskSynth

inductive Content where
  | null
  | bool (b : Bool)
  | number (n : Json.Number)
  | text (s : String)
  | sequence (items : List Content)
  | mapping (entries : List (Content × Content))
  deriving Inhabited

inductive Mismatch where
  | missingField (name : String)
  | unknownField (name : String) (known : List String)
  | unknownVariant (name : String) (known : List String)
  | duplicateField (name : String)
  | invalidType (found expected : String)
  | invalidLength (length : Nat) (expected : String)

namespace Mismatch

def ticked (name : String) : String := "`" ++ name ++ "`"

def choice : List String → String
  | [] => "nothing"
  | [a] => ticked a
  | [a, b] => ticked a ++ " or " ++ ticked b
  | names => "one of " ++ ", ".intercalate (names.map ticked)

def message : Mismatch → String
  | missingField name => "missing field " ++ ticked name
  | unknownField name known => "unknown field " ++ ticked name ++ ", expected " ++ choice known
  | unknownVariant name known => "unknown variant " ++ ticked name ++ ", expected " ++ choice known
  | duplicateField name => "duplicate field " ++ ticked name
  | invalidType found expected => "invalid type: " ++ found ++ ", expected " ++ expected
  | invalidLength length expected =>
    "invalid length " ++ toString length ++ ", expected " ++ expected

end Mismatch

def Json.Number.describe : Json.Number → String
  | .integer n => "integer `" ++ toString n ++ "`"
  | .float x => "floating point `" ++ String.ofList (Json.floatStyle.text x) ++ "`"

/-- What a message calls a value of the wrong type. -/
def Json.Value.describe : Json.Value → String
  | .null => "null"
  | .bool b => "boolean `" ++ toString b ++ "`"
  | .number n => n.describe
  | .string s => "string " ++ Text.quoted s
  | .array _ => "sequence"
  | .object _ => "map"

def Content.describe : Content → String
  | .null => "null"
  | .bool b => "boolean `" ++ toString b ++ "`"
  | .number n => n.describe
  | .text s => "string " ++ Text.quoted s
  | .sequence _ => "sequence"
  | .mapping _ => "map"

mutual

def Content.ofJson : Json.Value → Content
  | .null => .null
  | .bool b => .bool b
  | .number n => .number n
  | .string s => .text s
  | .array items => .sequence (Content.ofItems items)
  | .object entries => .mapping (Content.ofEntries entries)

def Content.ofItems : List Json.Value → List Content
  | [] => []
  | v :: rest => Content.ofJson v :: Content.ofItems rest

def Content.ofEntries : List (String × Json.Value) → List (Content × Content)
  | [] => []
  | (k, v) :: rest => (.text k, Content.ofJson v) :: Content.ofEntries rest

end

/-- Number of elements, as a message counts them. -/
def elementCount (n : Nat) : String :=
  if n = 1 then "1 element" else toString n ++ " elements"

end TaskSynth
