import TaskSynth.Content

/-! The typed values that markers carry. A record of each kind is read from an object, whose
keys must all be fields of that kind, or from an array that gives the fields in order; trailing
fields that have a default may be left out of the array. -/
namespace TaskSynth.Marker

structure Task where
  name : String
  version : String
  deriving DecidableEq

structure Param where
  name : String
  default : Option String
  strict : Bool
  deriving DecidableEq

structure Result where
  name : String
  deriving DecidableEq

structure Workspace where
  name : String
  description : String
  mountPath : Option String
  readOnly : Bool
  optional : Bool
  deriving DecidableEq

inductive Payload where
  | task (t : Task)
  | param (p : Param)
  | result (r : Result)
  | workspace (w : Workspace)
  deriving DecidableEq

inductive Kind where
  | task | param | result | workspace
  deriving DecidableEq

inductive FieldType where
  | text | optionalText | flag
  deriving DecidableEq

structure Field where
  name : String
  type : FieldType
  required : Bool

inductive Datum where
  | text (s : String)
  | absent
  | flag (b : Bool)
  deriving DecidableEq

def FieldType.read : FieldType → Json.Value → Except Mismatch Datum
  | .flag, .bool b => .ok (.flag b)
  | .flag, v => .error (.invalidType v.describe "a boolean")
  | _, .string s => .ok (.text s)
  | .optionalText, .null => .ok .absent
  | _, v => .error (.invalidType v.describe "a string")

/-- The fields of a record that have been given a value. -/
abbrev Record := List (String × Datum)

namespace Record

def text (r : Record) (name : String) : String :=
  match r.lookup name with
  | some (.text s) => s
  | _ => ""

def text? (r : Record) (name : String) : Option String :=
  match r.lookup name with
  | some (.text s) => some s
  | _ => none

def flag (r : Record) (name : String) : Bool :=
  match r.lookup name with
  | some (.flag b) => b
  | _ => false

/-- The values of an object's entries, in the order of the entries. -/
def ofEntries (fields : List Field) : List (String × Json.Value) → Except Mismatch Record
  | [] => .ok []
  | (key, value) :: rest =>
    match fields.find? (·.name == key) with
    | none => .error (.unknownField key (fields.map (·.name)))
    | some field => do
      let datum ← field.type.read value
      let record ← ofEntries fields rest
      .ok ((key, datum) :: record)

/-- The values of an array's elements, in the order of the fields. `missing` is raised at a
required field for which no element is left. -/
def ofItems (missing : Nat → Mismatch) (index : Nat) :
    List Field → List Json.Value → Except Mismatch Record
  | [], _ => .ok []
  | field :: fields, [] =>
    if field.required then .error (missing index) else ofItems missing (index + 1) fields []
  | field :: fields, value :: rest => do
    let datum ← field.type.read value
    let record ← ofItems missing (index + 1) fields rest
    .ok ((field.name, datum) :: record)

end Record

namespace Kind

def fields : Kind → List Field
  | task => [⟨"name", .text, true⟩, ⟨"version", .text, true⟩]
  | param => [⟨"name", .text, true⟩, ⟨"default", .optionalText, false⟩, ⟨"strict", .flag, false⟩]
  | result => [⟨"name", .text, true⟩]
  | workspace =>
    [⟨"name", .text, true⟩, ⟨"description", .text, false⟩, ⟨"mountPath", .optionalText, false⟩,
     ⟨"readOnly", .flag, false⟩, ⟨"optional", .flag, false⟩]

def recordName : Kind → String
  | task => "struct TaskMarker"
  | param => "struct ParamMarker"
  | result => "struct ResultMarker"
  | workspace => "struct WorkspaceMarker"

def record (kind : Kind) : Json.Value → Except Mismatch Record
  | .object entries => do
    let r ← Record.ofEntries kind.fields entries
    match kind.fields.find? fun f => f.required && (r.lookup f.name).isNone with
    | some f => .error (.missingField f.name)
    | none => .ok r
  | .array items => do
    let count := elementCount kind.fields.length
    let missing (n : Nat) : Mismatch := .invalidLength n (kind.recordName ++ " with " ++ count)
    let r ← Record.ofItems missing 0 kind.fields items
    if items.length ≤ kind.fields.length then .ok r
    else .error (.invalidLength items.length "fewer elements in array")
  | v => .error (.invalidType v.describe kind.recordName)

def payload (r : Record) : Kind → Payload
  | task => .task ⟨r.text "name", r.text "version"⟩
  | param => .param ⟨r.text "name", r.text? "default", r.flag "strict"⟩
  | result => .result ⟨r.text "name"⟩
  | workspace =>
    .workspace ⟨r.text "name", r.text "description", r.text? "mountPath", r.flag "readOnly",
      r.flag "optional"⟩

def decode (kind : Kind) (value : Json.Value) : Except Mismatch Payload :=
  (kind.record value).map fun r => payload r kind

end Kind

def Task.encode (t : Task) : Json.Value :=
  .object [("name", .string t.name), ("version", .string t.version)]

def Param.encode (p : Param) : Json.Value :=
  .object [("name", .string p.name), ("default", .ofOption .string p.default),
    ("strict", .bool p.strict)]

def Result.encode (r : Result) : Json.Value := .object [("name", .string r.name)]

def Workspace.encode (w : Workspace) : Json.Value :=
  .object [("name", .string w.name), ("description", .string w.description),
    ("mountPath", .ofOption .string w.mountPath), ("readOnly", .bool w.readOnly),
    ("optional", .bool w.optional)]

namespace Payload

def kind : Payload → Kind
  | task _ => .task
  | param _ => .param
  | result _ => .result
  | workspace _ => .workspace

/-- The object form, with every field written. -/
def encode : Payload → Json.Value
  | task t => t.encode
  | param p => p.encode
  | result r => r.encode
  | workspace w => w.encode

end Payload

end TaskSynth.Marker
