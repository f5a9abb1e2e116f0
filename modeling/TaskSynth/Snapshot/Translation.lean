import TaskSynth.Log
import TaskSynth.Marker.Registry
import TaskSynth.Snapshot.Basic

namespace TaskSynth.Snapshot

def reporter : String := "collector"

/-- The payloads of the values found on a target, and a warning for each value that has none
though its marker is known. -/
def decodeValues (context : Log.Context) (target : Marker.Target) :
    List (String × Json.Value) → Logged (List Marker.Payload)
  | [] => .of []
  | (name, value) :: rest =>
    match Marker.decode name target value with
    | .ok (some payload) => (decodeValues context target rest).map (payload :: ·)
    | .ok none => decodeValues context target rest
    | .error e => do
      .report [context.warn ("skipping marker value: " ++ e.message)]
      decodeValues context target rest

def task? : Marker.Payload → Option Marker.Task
  | .task t => some t
  | _ => none

def workspace? : Marker.Payload → Option Marker.Workspace
  | .workspace w => some w
  | _ => none

def entityMarker? : Marker.Payload → Option EntityMarker
  | .param p => some (.param p)
  | .result r => some (.result r)
  | _ => none

def repeated (m : EntityMarker) : String :=
  m.kind.name ++ " marker repeated, keeping '" ++ m.name ++ "'"

/-- The first of the markers of a type, if there is one and all are of one kind. -/
def chooseMarker (context : Log.Context) : List EntityMarker → Logged (Option EntityMarker)
  | [] => .of none
  | m :: rest => do
    .report ((rest.filter fun x => x.kind = m.kind).map fun _ => context.warn (repeated m))
    if rest.any fun x => x.kind ≠ m.kind then
      .report [context.warn "type carries both a param and a result marker, skipping it"]
      return none
    else
      .report [context.debug (m.kind.name ++ " '" ++ m.name ++ "' collected")]
      return some m

def RawType.toEntity (context : Log.Context) (t : RawType) : Logged (Option Entity) := do
  let context := { context with entity := some t.name }
  let payloads ← decodeValues context .type t.markers.all
  let marker ← chooseMarker context (payloads.filterMap entityMarker?)
  return marker.map fun m => ⟨t.name, t.doc, t.shape, m⟩

def entities (context : Log.Context) : List RawType → Logged (List Entity)
  | [] => .of []
  | t :: rest => do
    let e ← t.toEntity context
    let es ← entities context rest
    return e.toList ++ es

/-- The typed package. Of several task markers the first counts. -/
def RawPackage.toPackage (p : RawPackage) : Logged Package := do
  let context := Log.Context.ofPackage reporter p.name
  let payloads ← decodeValues context .package p.markers.all
  let tasks := payloads.filterMap task?
  .report (tasks.tail.map fun _ => context.warn "task marker repeated, keeping the first one")
  let entities ← entities context p.types
  return ⟨p.name, p.importPath, p.dir, p.fileDocs, tasks.head?, payloads.filterMap workspace?,
    entities⟩

end TaskSynth.Snapshot
