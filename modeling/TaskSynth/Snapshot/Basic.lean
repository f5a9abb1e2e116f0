import TaskSynth.Json.Value
import TaskSynth.Shape.Basic

namespace TaskSynth.Snapshot

/-- Names of markers, each with its values. -/
abbrev Entries := List (String × List Json.Value)

namespace Entries

/-- Adds the values of a name in front of the first greater name, or replaces those it has. -/
def put (entries : Entries) (name : String) (values : List Json.Value) : Entries :=
  match entries with
  | [] => [(name, values)]
  | (n, vs) :: rest =>
    if name = n then (n, values) :: rest
    else if name < n then (name, values) :: (n, vs) :: rest
    else (n, vs) :: put rest name values

def all (entries : Entries) : List (String × Json.Value) :=
  entries.flatMap fun (name, values) => values.map fun v => (name, v)

/-- Each name is smaller than those behind it, so none is repeated. -/
def Ordered (entries : Entries) : Prop := (entries.map Prod.fst).Pairwise (· < ·)

theorem mem_names_put {entries : Entries} {name x : String} {values : List Json.Value}
    (member : x ∈ (put entries name values).map Prod.fst) :
    x = name ∨ x ∈ entries.map Prod.fst := by
  induction entries with
  | nil => exact Or.inl (List.mem_singleton.mp member)
  | cons e rest ih =>
    obtain ⟨k, ws⟩ := e
    unfold put at member
    split at member
    · rename_i same
      exact Or.inr (same ▸ member)
    · split at member
      · exact List.mem_cons.mp member
      · rcases List.mem_cons.mp member with first | later
        · exact Or.inr (List.mem_cons.mpr (Or.inl first))
        · exact (ih later).imp_right (List.mem_cons_of_mem _)

theorem ordered_put {entries : Entries} (ordered : entries.Ordered) (name : String)
    (values : List Json.Value) : (put entries name values).Ordered := by
  unfold Ordered at ordered ⊢
  induction entries with
  | nil => exact List.pairwise_singleton _ name
  | cons e rest ih =>
    obtain ⟨k, ws⟩ := e
    obtain ⟨first, others⟩ := List.pairwise_cons.mp ordered
    unfold put
    split
    · rename_i same
      exact same ▸ ordered
    · rename_i other
      split
      · rename_i less
        refine List.pairwise_cons.mpr ⟨fun x member => ?_, ordered⟩
        rcases List.mem_cons.mp member with rfl | later
        · exact less
        · exact String.lt_trans less (first x later)
      · rename_i greater
        have above : k < name := Decidable.byContradiction fun least =>
          other (String.le_antisymm (String.not_lt.mp least) (String.not_lt.mp greater))
        refine List.pairwise_cons.mpr ⟨fun x member => ?_, ih others⟩
        rcases mem_names_put member with rfl | later
        · exact above
        · exact first x later

end Entries

/-- Raw values by the name of their marker, in the order of the names. -/
structure RawMarkers where
  entries : Entries
  ordered : entries.Ordered

namespace RawMarkers

def empty : RawMarkers := ⟨[], List.Pairwise.nil⟩

def put (m : RawMarkers) (name : String) (values : List Json.Value) : RawMarkers :=
  ⟨m.entries.put name values, Entries.ordered_put m.ordered name values⟩

/-- The markers of a mapping; of a repeated name the last values count. -/
def ofEntries (entries : Entries) : RawMarkers :=
  entries.foldl (fun m (name, values) => m.put name values) empty

def all (m : RawMarkers) : List (String × Json.Value) := m.entries.all

end RawMarkers

structure RawType where
  name : String
  doc : String
  shape : Shape
  markers : RawMarkers

structure RawPackage where
  name : String
  importPath : String
  dir : String
  fileDocs : List String
  markers : RawMarkers
  types : List RawType

end TaskSynth.Snapshot
