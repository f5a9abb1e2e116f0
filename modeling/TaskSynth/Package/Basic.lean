import TaskSynth.Marker.Payload
import TaskSynth.Shape.Basic

namespace TaskSynth

/-- Params and results are separate namespaces. -/
inductive Entity.Kind where
  | param | result
  deriving DecidableEq

def Entity.Kind.name : Entity.Kind → String
  | .param => "param"
  | .result => "result"

inductive EntityMarker where
  | param (p : Marker.Param)
  | result (r : Marker.Result)
  deriving DecidableEq

namespace EntityMarker

def kind : EntityMarker → Entity.Kind
  | param _ => .param
  | result _ => .result

def name : EntityMarker → String
  | param p => p.name
  | result r => r.name

end EntityMarker

/-- A type declaration with the marker of a param or a result; `name` is the type's. -/
structure Entity where
  name : String
  doc : String
  shape : Shape
  marker : EntityMarker
  deriving DecidableEq

namespace Entity

def kind (e : Entity) : Kind := e.marker.kind

/-- What tells entities of a package apart. -/
def key (e : Entity) : Kind × String := (e.marker.kind, e.marker.name)

/-- Named once, so that every search among keys compares them by the same proof. -/
instance lawfulKeys : LawfulBEq (Kind × String) := inferInstance

end Entity

structure Package where
  name : String
  importPath : String
  dir : String
  fileDocs : List String
  task : Option Marker.Task
  workspaces : List Marker.Workspace
  entities : List Entity
  deriving DecidableEq

end TaskSynth
