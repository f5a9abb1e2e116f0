import TaskSynth.Marker.Payload
import TaskSynth.Marker.Target

namespace TaskSynth.Marker

structure Argument where
  name : String
  type : String
  optional : Bool
  summary : String

structure Definition where
  name : String
  target : Target
  kind : Kind
  repeatable : Bool
  category : String
  summary : String
  details : String
  arguments : List Argument

def taskName : String := "tektasker:task"
def paramName : String := "tektasker:param"
def resultName : String := "tektasker:result"
def workspaceName : String := "tektasker:workspace"

def taskDefinition : Definition where
  name := taskName
  target := .package
  kind := .task
  repeatable := false
  category := "task"
  summary := "turns the package into a Tekton Task"
  details := "Packages without this marker are skipped by every generator."
  arguments :=
    [⟨"name", "string", false, "name of the Task resource"⟩,
     ⟨"version", "string", false, "version label of the Task"⟩]

def paramDefinition : Definition where
  name := paramName
  target := .type
  kind := .param
  repeatable := false
  category := "task"
  summary := "exposes the type as a Task parameter"
  details := "Arrays map to array params, strict structs to object params, " ++
    "everything else to string params holding the raw value or JSON."
  arguments :=
    [⟨"name", "string", false, "name of the parameter in the Task"⟩,
     ⟨"default", "string", true, "default value, JSON for array and object params"⟩,
     ⟨"strict", "bool", true, "derive an object schema from the struct json tags"⟩]

def resultDefinition : Definition where
  name := resultName
  target := .type
  kind := .result
  repeatable := false
  category := "task"
  summary := "exposes the type as a Task result"
  details := "Arrays map to array results, everything else to string results."
  arguments := [⟨"name", "string", false, "name of the result in the Task"⟩]

def workspaceDefinition : Definition where
  name := workspaceName
  target := .package
  kind := .workspace
  repeatable := true
  category := "task"
  summary := "declares a workspace of the Task"
  details := "May be repeated; workspaces keep their declaration order."
  arguments :=
    [⟨"name", "string", false, "name of the workspace"⟩,
     ⟨"description", "string", false, "what the workspace is used for"⟩,
     ⟨"mountPath", "string", true, "where the workspace is mounted in the step"⟩,
     ⟨"readOnly", "bool", true, "mount the workspace read-only"⟩,
     ⟨"optional", "bool", true, "the TaskRun may omit the workspace"⟩]

def definitions : List Definition :=
  [taskDefinition, paramDefinition, resultDefinition, workspaceDefinition]

def Argument.usage (a : Argument) : String :=
  let text := "," ++ a.name ++ "=<" ++ a.type ++ ">"
  if a.optional then "[" ++ text ++ "]" else text

/-- The usage line: the arguments after the name, without a leading comma. -/
def Definition.usage (d : Definition) : String :=
  let arguments := (String.join (d.arguments.map Argument.usage)).toList
  let arguments := match arguments with
    | ',' :: rest => rest
    | all => all
  "+" ++ d.name ++ ":" ++ String.ofList arguments

/-- One leading plus sign is no part of a name. -/
def bareName (name : String) : String :=
  match name.toList with
  | '+' :: rest => String.ofList rest
  | _ => name

def lookup (name : String) (target : Target) : Option Definition :=
  definitions.find? fun d => d.name == bareName name && d.target == target

/-- Does any definition carry this name, whatever its target? -/
def isKnown (name : String) : Bool := definitions.any fun d => d.name == bareName name

inductive Error where
  | payloadMismatch (marker : String) (cause : Mismatch)
  | wrongTarget (marker : String) (target : Target)
  | unknownTarget (text : String)

def Error.message : Error → String
  | payloadMismatch marker cause =>
    "unexpected payload for marker '" ++ marker ++ "': " ++ cause.message
  | wrongTarget marker target =>
    "marker '" ++ marker ++ "' cannot be used on a " ++ target.name
  | unknownTarget text =>
    "unknown marker target '" ++ text ++ "' (expected package, type or field)"

def Target.parse (text : String) : Except Error Target :=
  match Target.ofName? text with
  | some t => .ok t
  | none => .error (.unknownTarget text)

/-- Decodes a raw value found on `target`. A marker of another tool gives nothing. -/
def decode (name : String) (target : Target) (value : Json.Value) :
    Except Error (Option Payload) :=
  match lookup name target with
  | some d =>
    match d.kind.decode value with
    | .ok payload => .ok (some payload)
    | .error cause => .error (.payloadMismatch d.name cause)
  | none => if isKnown name then .error (.wrongTarget name target) else .ok none

/-- Adds a definition to the group of its category, or as a new last group. -/
def addToGroup (d : Definition) :
    List (String × List Definition) → List (String × List Definition)
  | [] => [(d.category, [d])]
  | (category, members) :: rest =>
    if category = d.category then (category, members ++ [d]) :: rest
    else (category, members) :: addToGroup d rest

/-- Definitions by category, categories in order of name. -/
def byCategory : List (String × List Definition) :=
  (definitions.foldl (fun groups d => addToGroup d groups) []).mergeSort fun a b => a.1 ≤ b.1

end TaskSynth.Marker
