import TaskSynth.Binding.Method
import TaskSynth.Log

namespace TaskSynth.Binding

def generator : String := "go-func"

/-- Arguments in groups, each with its method. A method that has had none may be without a group. -/
structure Index where
  groups : List (Method × List Args)
  distinct : (groups.map Prod.fst).Nodup

namespace Index

def empty : Index := ⟨[], List.nodup_nil⟩

/-- Puts arguments at the end of the group of a method, and makes the group if there is none. -/
def pushTo (m : Method) (a : Args) : List (Method × List Args) → List (Method × List Args)
  | [] => [(m, [a])]
  | (n, own) :: rest => if n = m then (n, own ++ [a]) :: rest else (n, own) :: pushTo m a rest

theorem map_fst_pushTo (m : Method) (a : Args) (groups : List (Method × List Args)) :
    (pushTo m a groups).map Prod.fst =
      if m ∈ groups.map Prod.fst then groups.map Prod.fst else groups.map Prod.fst ++ [m] := by
  induction groups with
  | nil => rfl
  | cons x rest ih =>
    by_cases here : x.1 = m
    · simp [pushTo, here]
    · simp only [pushTo, if_neg here, List.map_cons, ih, List.mem_cons, Ne.symm here, false_or]
      split <;> rfl

def push (i : Index) (m : Method) (a : Args) : Index where
  groups := pushTo m a i.groups
  distinct := by
    rw [map_fst_pushTo]
    split
    · exact i.distinct
    · rename_i fresh
      refine List.nodup_append.mpr ⟨i.distinct, by simp, ?_⟩
      intro n known k single same
      exact fresh (List.mem_singleton.mp single ▸ same ▸ known)

def get (i : Index) (m : Method) : List Args := (i.groups.lookup m).getD []

def usesJson (i : Index) : Bool := i.groups.any fun x => x.1.usesJson && !x.2.isEmpty

def isEmpty (i : Index) : Bool := i.groups.all fun x => x.2.isEmpty

def add (i : Index) (e : Entity) : Index :=
  (Method.ofEntity e.kind e.shape.classify.codec).foldl
    (fun i m => i.push m ⟨e.marker.name, e.name⟩) i

/-- Records the entities of a package; of those with one kind and name only the first. -/
def collect (context : Log.Context) (seen : List (Entity.Kind × String)) (index : Index) :
    List Entity → Logged Index
  | [] => .of index
  | e :: rest => do
    let context' := context.narrow e.kind e.marker.name
    .report [context'.info (e.kind.name ++ " found")]
    if e.key ∈ seen then
      .report [context'.warn (e.kind.name ++ " duplicated! ensure unique name")]
      collect context seen index rest
    else collect context (e.key :: seen) (index.add e) rest

def ofPackage (p : Package) : Logged Index :=
  collect (.ofPackage generator p.name) [] empty p.entities

end Index

end TaskSynth.Binding
