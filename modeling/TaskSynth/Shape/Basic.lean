import TaskSynth.StructTag

namespace TaskSynth

structure FieldDecl where
  name : String
  tag : Option String
  deriving DecidableEq

def FieldDecl.jsonTag (f : FieldDecl) : Option String :=
  f.tag.bind fun tag => StructTag.lookup tag "json"

inductive Shape where
  | scalar (stringAlias : Bool)
  | array
  | map
  | struct (fields : List FieldDecl)
  deriving DecidableEq

inductive Shape.Class where
  | stringAlias | scalar | array | map | struct
  deriving DecidableEq

/-- How generated code converts between a value and its bytes. -/
inductive Codec where
  | raw | json
  deriving DecidableEq

namespace Shape

def classify : Shape → Class
  | scalar true => .stringAlias
  | scalar false => .scalar
  | array => .array
  | map => .map
  | struct _ => .struct

def fields : Shape → List FieldDecl
  | struct fs => fs
  | _ => []

end Shape

/-- A string alias is converted as it is; every other class goes through JSON. -/
def Shape.Class.codec : Shape.Class → Codec
  | .stringAlias => .raw
  | _ => .json

end TaskSynth
