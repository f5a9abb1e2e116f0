import TaskSynth.Schema
import TaskSynth.Text.Casing
import TaskSynth.Text.Quoted

namespace TaskSynth.Manifest

structure EnvBinding where
  name : String
  value : String
  deriving DecidableEq

def paramEnvName (name : String) : String := "PARAM_" ++ Text.toUpper name ++ "_VALUE"

def resultEnvName (name : String) : String := "RESULT_" ++ Text.toUpper name ++ "_PATH"

/-- Array params are spread over several values. -/
def spread (type : Schema.TypeTag) : String := if type = .array then "[*]" else ""

def EnvBinding.ofParam (p : Schema.Param) : EnvBinding :=
  ⟨paramEnvName p.name, "$(params[" ++ Text.quoted p.name ++ "]" ++ spread p.type ++ ")"⟩

def EnvBinding.ofResult (r : Schema.Result) : EnvBinding :=
  ⟨resultEnvName r.name, "$(results[" ++ Text.quoted r.name ++ "].path)"⟩

def EnvBinding.document (b : EnvBinding) : Json.Value :=
  .object [("name", .string b.name), ("value", .string b.value)]

end TaskSynth.Manifest
