import TaskSynth.Package.Basic

namespace TaskSynth.Binding

inductive Method where
  | paramName | paramUnmarshalRaw | paramUnmarshalJson
  | resultName | resultMarshalRaw | resultMarshalJson
  deriving DecidableEq

structure Args where
  name : String
  typeName : String
  deriving DecidableEq

namespace Method

/-- Every method in the order in which sections are emitted. -/
def all : List Method :=
  [paramName, paramUnmarshalRaw, paramUnmarshalJson, resultName, resultMarshalRaw,
   resultMarshalJson]

def name : Method → String
  | paramName => "param.func.name"
  | paramUnmarshalRaw => "param.func.unmarshal.simple"
  | paramUnmarshalJson => "param.func.unmarshal.json"
  | resultName => "result.func.name"
  | resultMarshalRaw => "result.func.marshal.simple"
  | resultMarshalJson => "result.func.marshal.json"

/-- Does the text of the method mention the JSON package? -/
def usesJson : Method → Bool
  | paramUnmarshalJson => true
  | resultMarshalJson => true
  | _ => false

def ofEntity : Entity.Kind → Codec → List Method
  | .param, .raw => [paramName, paramUnmarshalRaw]
  | .param, .json => [paramName, paramUnmarshalJson]
  | .result, .raw => [resultName, resultMarshalRaw]
  | .result, .json => [resultName, resultMarshalJson]

/-- The Go text of the method, without a final line end. -/
def render (m : Method) (a : Args) : String :=
  match m with
  | paramName =>
    "func (param *" ++ a.typeName ++ ") Name() string \x7b\n\treturn \"" ++ a.name ++ "\"\n\x7d"
  | paramUnmarshalRaw =>
    "func (param *" ++ a.typeName ++ ") Unmarshal(buf []byte) error \x7b\n\t*param = " ++
      a.typeName ++ "(buf)\n\treturn nil\n\x7d"
  | paramUnmarshalJson =>
    "func (param *" ++ a.typeName ++
      ") Unmarshal(buf []byte) error \x7b\n\treturn json.Unmarshal(buf, param)\n\x7d"
  | resultName =>
    "func (result *" ++ a.typeName ++ ") Name() string \x7b\n\treturn \"" ++ a.name ++ "\"\n\x7d"
  | resultMarshalRaw =>
    "func (result *" ++ a.typeName ++
      ") Marshal() ([]byte, error) \x7b\n\treturn []byte(*result), nil\n\x7d"
  | resultMarshalJson =>
    "func (result *" ++ a.typeName ++
      ") Marshal() ([]byte, error) \x7b\n\treturn json.Marshal(result)\n\x7d"

end Method

end TaskSynth.Binding
