import TaskSynth.Shape.Decode
import TaskSynth.Snapshot.Basic
import TaskSynth.Yaml.Decode

namespace TaskSynth.Snapshot

open Yaml (Node Decoder)

/-- How many collections may lie inside each other. -/
def deepest : Nat := 128

def decodeMarkers (depth : Nat) (n : Node) : Decoder RawMarkers := do
  let entries ← (← Decoder.entries n).mapM fun (k, v) => do
    return (← Decoder.text k, ← Decoder.list (Decoder.json depth) v)
  return .ofEntries entries

def decodeShape (depth : Nat) (n : Node) : Decoder Shape := do
  match Shape.decode (← Decoder.variantContent "kind" depth n) with
  | .ok s => return s
  | .error _ => Decoder.fail

def decodeType (n : Node) : Decoder RawType := do
  let found ← Decoder.fields ["name", "doc", "shape", "markers"] n
  return {
    name := ← Decoder.required found "name" Decoder.text
    doc := ← Decoder.optional found "doc" "" Decoder.text
    shape := ← Decoder.required found "shape" (decodeShape (deepest - 5))
    markers := ← Decoder.optional found "markers" .empty (decodeMarkers (deepest - 7)) }

def decodePackage (n : Node) : Decoder RawPackage := do
  let found ← Decoder.fields ["name", "import_path", "dir", "file_docs", "markers", "types"] n
  return {
    name := ← Decoder.required found "name" Decoder.text
    importPath := ← Decoder.required found "import_path" Decoder.text
    dir := ← Decoder.optional found "dir" "" Decoder.text
    fileDocs := ← Decoder.optional found "file_docs" [] (Decoder.list Decoder.text)
    markers := ← Decoder.optional found "markers" .empty (decodeMarkers (deepest - 5))
    types := ← Decoder.optional found "types" [] (Decoder.list decodeType) }

def decodePackages (n : Node) : Decoder (List RawPackage) := do
  let found ← Decoder.fields ["packages"] n
  Decoder.optional found "packages" [] (Decoder.list decodePackage)

def parse (text : String) : Option (List RawPackage) := do
  Decoder.run [] decodePackages (← Yaml.Document.parse text)

end TaskSynth.Snapshot
