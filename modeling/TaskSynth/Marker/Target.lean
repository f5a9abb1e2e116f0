import TaskSynth.Text.Casing

namespace TaskSynth.Marker

inductive Target where
  | package | type | field
  deriving DecidableEq

namespace Target

def name : Target → String
  | package => "package"
  | type => "type"
  | field => "field"

/-- Targets are named in any case. -/
def ofName? (text : String) : Option Target :=
  match Text.toLower text with
  | "package" => some package
  | "type" => some type
  | "field" => some field
  | _ => none

end Target

end TaskSynth.Marker
