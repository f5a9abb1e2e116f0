import TaskSynth.Proofs.Snapshot.Translation
import TaskSynth.Snapshot.Reader

namespace TaskSynth

namespace Yaml.Decoder

section

variable {α β : Type}

theorem mapM_map {γ : Type} (read : γ → Decoder α) (f : α → β) (xs : List γ) :
    xs.mapM (fun x => f <$> read x) = List.map f <$> xs.mapM read := by
  induction xs with
  | nil => simp
  | cons x rest ih => simp [ih]

theorem list_map (read : Node → Decoder α) (f : α → β) (n : Node) :
    list (fun n => f <$> read n) n = List.map f <$> list read n := by
  simp only [list, mapM_map, map_bind]

theorem optional_map (found : List (String × Node)) (name : String) (default : α)
    (read : Node → Decoder α) (f : α → β) :
    optional found name (f default) (fun n => f <$> read n) =
      f <$> optional found name default read := by
  unfold optional
  split <;> simp

theorem run_map (default : α) (read : Node → Decoder α) (f : α → β) (d : Document) :
    run (f default) (fun n => f <$> read n) d = (run default read d).map f := by
  unfold run
  cases d.root with
  | none => rfl
  | some n =>
    simp only [ReaderT.run_map, StateT.run_map]
    cases (ReaderT.run (read n) d).run (100 * d.size) <;> rfl

end

end Yaml.Decoder

namespace Snapshot

open Yaml (Node Decoder)

structure TypeListing where
  name : String
  doc : String
  shape : Shape
  markers : Entries

structure Listing where
  name : String
  importPath : String
  dir : String
  fileDocs : List String
  markers : Entries
  types : List TypeListing

def TypeListing.toRaw (t : TypeListing) : RawType :=
  ⟨t.name, t.doc, t.shape, .ofEntries t.markers⟩

def Listing.toRaw (l : Listing) : RawPackage :=
  ⟨l.name, l.importPath, l.dir, l.fileDocs, .ofEntries l.markers, l.types.map TypeListing.toRaw⟩

def listMarkers (depth : Nat) (n : Node) : Decoder Entries := do
  (← Decoder.entries n).mapM fun (k, v) => do
    return (← Decoder.text k, ← Decoder.list (Decoder.json depth) v)

def listType (n : Node) : Decoder TypeListing := do
  let found ← Decoder.fields ["name", "doc", "shape", "markers"] n
  return {
    name := ← Decoder.required found "name" Decoder.text
    doc := ← Decoder.optional found "doc" "" Decoder.text
    shape := ← Decoder.required found "shape" (decodeShape (deepest - 5))
    markers := ← Decoder.optional found "markers" [] (listMarkers (deepest - 7)) }

def listPackage (n : Node) : Decoder Listing := do
  let found ← Decoder.fields ["name", "import_path", "dir", "file_docs", "markers", "types"] n
  return {
    name := ← Decoder.required found "name" Decoder.text
    importPath := ← Decoder.required found "import_path" Decoder.text
    dir := ← Decoder.optional found "dir" "" Decoder.text
    fileDocs := ← Decoder.optional found "file_docs" [] (Decoder.list Decoder.text)
    markers := ← Decoder.optional found "markers" [] (listMarkers (deepest - 5))
    types := ← Decoder.optional found "types" [] (Decoder.list listType) }

def listPackages (n : Node) : Decoder (List Listing) := do
  let found ← Decoder.fields ["packages"] n
  Decoder.optional found "packages" [] (Decoder.list listPackage)

/-- The packages of a snapshot text as they are written. -/
def listings (text : String) : Option (List Listing) := do
  Decoder.run [] listPackages (← Yaml.Document.parse text)

theorem decodeMarkers_eq (depth : Nat) (n : Node) :
    decodeMarkers depth n = RawMarkers.ofEntries <$> listMarkers depth n := by
  simp [decodeMarkers, listMarkers]

theorem optional_decodeMarkers (depth : Nat) (found : List (String × Node)) :
    Decoder.optional found "markers" .empty (decodeMarkers depth) =
      RawMarkers.ofEntries <$> Decoder.optional found "markers" [] (listMarkers depth) := by
  rw [funext (decodeMarkers_eq depth)]
  exact Decoder.optional_map found "markers" [] (listMarkers depth) RawMarkers.ofEntries

theorem decodeType_eq (n : Node) : decodeType n = TypeListing.toRaw <$> listType n := by
  simp only [decodeType, listType, optional_decodeMarkers, map_bind, map_pure, bind_map_left]
  rfl

theorem optional_decodeTypes (found : List (String × Node)) :
    Decoder.optional found "types" [] (Decoder.list decodeType) =
      List.map TypeListing.toRaw <$> Decoder.optional found "types" [] (Decoder.list listType) := by
  rw [funext decodeType_eq, funext (Decoder.list_map listType TypeListing.toRaw)]
  exact Decoder.optional_map found "types" [] (Decoder.list listType) (List.map TypeListing.toRaw)

theorem decodePackage_eq (n : Node) : decodePackage n = Listing.toRaw <$> listPackage n := by
  simp only [decodePackage, listPackage, optional_decodeMarkers, optional_decodeTypes, map_bind,
    map_pure, bind_map_left]
  rfl

theorem decodePackages_eq (n : Node) :
    decodePackages n = List.map Listing.toRaw <$> listPackages n := by
  have packages (found : List (String × Node)) :
      Decoder.optional found "packages" [] (Decoder.list decodePackage) =
        List.map Listing.toRaw <$>
          Decoder.optional found "packages" [] (Decoder.list listPackage) := by
    rw [funext decodePackage_eq, funext (Decoder.list_map listPackage Listing.toRaw)]
    exact Decoder.optional_map found "packages" [] (Decoder.list listPackage)
      (List.map Listing.toRaw)
  simp only [decodePackages, listPackages, map_bind, packages]

theorem parse_eq (text : String) : parse text = (listings text).map (List.map Listing.toRaw) := by
  unfold parse listings
  cases Yaml.Document.parse text with
  | none => rfl
  | some d =>
    rw [funext decodePackages_eq]
    exact Decoder.run_map [] listPackages (List.map Listing.toRaw) d

end Snapshot

end TaskSynth
