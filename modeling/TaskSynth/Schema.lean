import TaskSynth.Json.Collection
import TaskSynth.Package.Basic

namespace TaskSynth.Schema

inductive TypeTag where
  | string | array | object
  deriving DecidableEq

def TypeTag.name : TypeTag → String
  | .string => "string"
  | .array => "array"
  | .object => "object"

structure Param where
  name : String
  type : TypeTag
  description : String
  properties : Option (List (String × Json.Value))
  default : Option Json.Value

structure Result where
  name : String
  type : TypeTag
  description : String
  deriving DecidableEq

inductive Error where
  | missingJsonTag (param field : String)
  | emptyJsonTagName (param field : String)
  | duplicateJsonTag (param tag : String)
  | invalidDefault (param : String) (expected : TypeTag) (reason : String)

namespace Error

/-- The reason of an invalid default on its own. -/
def source? : Error → Option String
  | invalidDefault _ _ reason => some reason
  | _ => none

def message : Error → String
  | missingJsonTag param field =>
    "param '" ++ param ++ "': field '" ++ field ++ "' of a strict struct has no json tag"
  | emptyJsonTagName param field =>
    "param '" ++ param ++ "': field '" ++ field ++
      "' of a strict struct needs an explicit json tag name"
  | duplicateJsonTag param tag =>
    "param '" ++ param ++ "': json tag name '" ++ tag ++ "' is used by more than one field"
  | invalidDefault param expected reason =>
    "param '" ++ param ++ "': default value is not a valid JSON " ++ expected.name ++ ": " ++
      reason

end Error

/-- Arrays are arrays and strict structs objects; any other value travels as a string. -/
def paramType (c : Shape.Class) (strict : Bool) : TypeTag :=
  match c with
  | .array => .array
  | .struct => if strict then .object else .string
  | .map => .string
  | .stringAlias => .string
  | .scalar => .string

def resultType : Shape.Class → TypeTag
  | .array => .array
  | _ => .string

/-- The part of a tag value that names the property. -/
def tagName (tag : String) : String := String.ofList (tag.toList.takeWhile (· != ','))

/-- The property names of a strict struct in declaration order, given those taken already. A
tag that is a lone dash leaves its field out. -/
def propertyNames (param : String) (taken : List String) :
    List FieldDecl → Except Error (List String)
  | [] => .ok []
  | f :: rest =>
    match f.jsonTag with
    | none => .error (.missingJsonTag param f.name)
    | some tag =>
      if tag = "-" then propertyNames param taken rest
      else
        let name := tagName tag
        if name = "" then .error (.emptyJsonTagName param f.name)
        else if name ∈ taken then .error (.duplicateJsonTag param name)
        else (propertyNames param (name :: taken) rest).map (name :: ·)

/-- Every property is a string. -/
def propertySchema : Json.Value := .object [("type", .string "string")]

def strictProperties (param : String) (fields : List FieldDecl) :
    Except Error (List (String × Json.Value)) :=
  (propertyNames param [] fields).map fun names => names.map fun n => (n, propertySchema)

/-- A default is JSON text for arrays and objects, and a string as it stands otherwise. -/
def parseDefault (param raw : String) : TypeTag → Except Error Json.Value
  | .string => .ok (.string raw)
  | .array =>
    match Json.whole Json.readArray raw.toList with
    | .ok items => .ok (.array items)
    | .error f => .error (.invalidDefault param .array (f.message raw.toList))
  | .object =>
    match Json.whole Json.readObject raw.toList with
    | .ok entries => .ok (.object entries)
    | .error f => .error (.invalidDefault param .object (f.message raw.toList))

def inferProperties (param : String) (fields : List FieldDecl) :
    TypeTag → Except Error (Option (List (String × Json.Value)))
  | .object => (strictProperties param fields).map some
  | _ => .ok none

def inferDefault (param : String) (type : TypeTag) :
    Option String → Except Error (Option Json.Value)
  | none => .ok none
  | some raw => (parseDefault param raw type).map some

def inferParam (e : Entity) (marker : Marker.Param) : Except Error Param := do
  let type := paramType e.shape.classify marker.strict
  let properties ← inferProperties marker.name e.shape.fields type
  let default ← inferDefault marker.name type marker.default
  .ok ⟨marker.name, type, e.doc, properties, default⟩

def inferResult (e : Entity) (marker : Marker.Result) : Result :=
  ⟨marker.name, resultType e.shape.classify, e.doc⟩

def optionalEntry (key : String) : Option Json.Value → List (String × Json.Value)
  | some v => [(key, v)]
  | none => []

def Param.document (p : Param) : Json.Value :=
  .object ([("name", .string p.name), ("type", .string p.type.name),
    ("description", .string p.description)] ++
    optionalEntry "properties" (p.properties.map .object) ++ optionalEntry "default" p.default)

def Result.document (r : Result) : Json.Value :=
  .object [("name", .string r.name), ("type", .string r.type.name),
    ("description", .string r.description)]

end TaskSynth.Schema
