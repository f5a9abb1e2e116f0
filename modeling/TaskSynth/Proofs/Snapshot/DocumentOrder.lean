import TaskSynth.Proofs.Snapshot.Listing

/-! The order of the document. Values of a package are found under the signed spelling of a name
first and under the bare one then, so what the document lists in this order stays as it is, and what
it lists in the other order does not unless exchanging the two makes no difference. -/
namespace TaskSynth.Snapshot

open Marker (payload? Payload taskName workspaceName)

def signed (bare : String) : String := "+" ++ bare

/-- What is taken from the payloads of a package, value by value. -/
def taken {α : Type} (take? : Payload → Option α) (es : List (String × Json.Value)) : List α :=
  es.filterMap fun e => (payload? .package e).bind take?

def takenUnder {α : Type} (take? : Payload → Option α) (es : Entries) (name : String) : List α :=
  (es.values name).filterMap fun v => (payload? .package (name, v)).bind take?

/-- The document lists the bare spelling of a name, and the signed one after it. -/
def BareFirst (es : Entries) (bare : String) : Prop :=
  [bare, signed bare].Sublist (es.map Prod.fst)

instance (es : Entries) (bare : String) : Decidable (BareFirst es bare) :=
  inferInstanceAs (Decidable (List.Sublist _ _))

/-- Something is taken under the two spellings of a name only, and the signed one is the smaller. -/
structure Spelt {α : Type} (take? : Payload → Option α) (bare : String) : Prop where
  ascending : Ascending [signed bare, bare]
  others : ∀ name v, name ≠ signed bare → name ≠ bare →
    (payload? .package (name, v)).bind take? = none

theorem spelt_task : Spelt task? taskName := by
  refine ⟨by decide +kernel, fun name v one two => ?_⟩
  refine Option.bind_eq_none_iff.mpr fun x found => ?_
  rcases Marker.kind_of_package (Marker.payload?_eq_some_iff.mp found) with
    ⟨-, spelt⟩ | ⟨kind, -⟩
  · exact ((Marker.eq_or_eq_of_bareName spelt).elim one two).elim
  · cases x <;> cases kind
    rfl

theorem spelt_workspace : Spelt workspace? workspaceName := by
  refine ⟨by decide +kernel, fun name v one two => ?_⟩
  refine Option.bind_eq_none_iff.mpr fun x found => ?_
  rcases Marker.kind_of_package (Marker.payload?_eq_some_iff.mp found) with
    ⟨kind, -⟩ | ⟨-, spelt⟩
  · cases x <;> cases kind
    rfl
  · exact ((Marker.eq_or_eq_of_bareName spelt).elim one two).elim

section

variable {α : Type} {take? : Payload → Option α} {bare : String} {entries : Entries}

theorem taken_ofEntries (spelt : Spelt take? bare) :
    taken take? (RawMarkers.ofEntries entries).all =
      takenUnder take? entries.lasting (signed bare) ++ takenUnder take? entries.lasting bare := by
  rw [taken, RawMarkers.filterMap_all _ spelt.ascending]
  · simp [takenUnder, RawMarkers.values_ofEntries]
  · intro name _ absent v
    simp only [List.mem_cons, List.not_mem_nil, or_false, not_or] at absent
    exact spelt.others name v absent.1 absent.2

theorem taken_lasting (spelt : Spelt take? bare) :
    taken take? entries.lasting.all =
      if BareFirst entries.lasting bare then
        takenUnder take? entries.lasting bare ++ takenUnder take? entries.lasting (signed bare)
      else
        takenUnder take? entries.lasting (signed bare) ++
          takenUnder take? entries.lasting bare := by
  have different : signed bare ≠ bare := by
    have least : signed bare < bare := List.rel_of_pairwise_cons
      (ascending_iff.mp spelt.ascending) (List.mem_singleton_self bare)
    intro same
    rw [same] at least
    exact String.lt_irrefl bare least
  exact Entries.filterMap_all_of_two different (Entries.nodup_lasting entries)
    fun name one two v => spelt.others name v one two

theorem order_iff {β : Type} (spelt : Spelt take? bare) (read : List α → β) :
    let written := entries.lasting
    let own := takenUnder take? written bare
    let other := takenUnder take? written (signed bare)
    read (taken take? (RawMarkers.ofEntries entries).all) = read (taken take? written.all) ↔
      (BareFirst written bare → read (own ++ other) = read (other ++ own)) := by
  intro written own other
  -- The package has the signed spelling first, the document the one that it lists first.
  rw [taken_ofEntries spelt, taken_lasting spelt]
  by_cases first : BareFirst written bare
  · rw [if_pos first]
    exact ⟨fun same _ => same.symm, fun same => (same first).symm⟩
  · rw [if_neg first]
    exact ⟨fun _ h => absurd h first, fun _ => rfl⟩

end

/-- The workspaces of a package, and the task that is kept, are those of the document in its order
exactly if no bare spelling is listed before the signed one, or exchanging their values makes no
difference. -/
theorem document_order_iff {text : String} {ps : List RawPackage} (parsed : parse text = some ps) :
    ∃ ls, listings text = some ls ∧ ps = ls.map Listing.toRaw ∧ ∀ l ∈ ls,
      let q := l.toRaw.toPackage.value
      let written := l.markers.lasting
      let workspaces := takenUnder workspace? written
      let tasks := takenUnder task? written
      q.workspaces = workspaces (signed workspaceName) ++ workspaces workspaceName ∧
      q.task = (tasks (signed taskName) ++ tasks taskName).head? ∧
      (q.workspaces = taken workspace? written.all ↔
        (BareFirst written workspaceName →
          workspaces workspaceName ++ workspaces (signed workspaceName) =
            workspaces (signed workspaceName) ++ workspaces workspaceName)) ∧
      (q.task = (taken task? written.all).head? ↔
        (BareFirst written taskName →
          (tasks taskName ++ tasks (signed taskName)).head? =
            (tasks (signed taskName) ++ tasks taskName).head?)) ∧
      ((l.markers.map Prod.fst).Nodup → written = l.markers) := by
  rw [parse_eq] at parsed
  obtain ⟨ls, listed, rfl⟩ := Option.map_eq_some_iff.mp parsed
  refine ⟨ls, listed, rfl, fun l _ => ?_⟩
  have workspaces : l.toRaw.toPackage.value.workspaces =
      taken workspace? (RawMarkers.ofEntries l.markers).all := by
    rw [toPackage_value]
    exact List.filterMap_filterMap
  have task : l.toRaw.toPackage.value.task =
      (taken task? (RawMarkers.ofEntries l.markers).all).head? := by
    rw [toPackage_value]
    exact congrArg List.head? List.filterMap_filterMap
  intro q written under underTask
  refine ⟨?_, ?_, ?_, ?_, Entries.lasting_of_nodup⟩
  · rw [workspaces, taken_ofEntries spelt_workspace]
  · rw [task, taken_ofEntries spelt_task]
  · rw [workspaces]
    exact order_iff spelt_workspace id
  · rw [task]
    exact order_iff spelt_task List.head?

/-- The signed spelling of the workspaces is listed first; the task is under one spelling only. -/
theorem document_order_signed_first :
    let text := "
packages:
- name: main
  import_path: acme/main
  markers:
    +tektasker:workspace:
    - name: first
    tektasker:workspace:
    - name: second
    tektasker:task:
    - name: greet
      version: '0.1'
"
    ∃ l, listings text = some [l] ∧ parse text = some [l.toRaw] ∧
      l.toRaw.toPackage.value.workspaces = taken workspace? l.markers.all ∧
      l.toRaw.toPackage.value.task = (taken task? l.markers.all).head? := by
  intro text
  have listed : (listings text).map (List.map fun l => (decide (l.markers.map Prod.fst).Nodup,
      decide (BareFirst l.markers workspaceName), decide (BareFirst l.markers taskName))) =
      some [(true, false, false)] := by decide +kernel
  obtain ⟨ls, found, mapped⟩ := Option.map_eq_some_iff.mp listed
  obtain ⟨l, rfl, facts⟩ := List.map_eq_singleton_iff.mp mapped
  simp only [Prod.mk.injEq, decide_eq_true_eq, decide_eq_false_iff_not] at facts
  obtain ⟨distinct, workspacesInOrder, tasksInOrder⟩ := facts
  have parsed : parse text = some [l.toRaw] := by
    rw [parse_eq, found]
    rfl
  obtain ⟨ls, found', -, each⟩ := document_order_iff parsed
  obtain rfl : [l] = ls := Option.some.inj (found.symm.trans found')
  obtain ⟨-, -, workspaces, task, once⟩ := each l List.mem_cons_self
  rw [once distinct] at workspaces task
  exact ⟨l, found, parsed, workspaces.mpr fun first => absurd first workspacesInOrder,
    task.mpr fun first => absurd first tasksInOrder⟩

/-- The bare spellings are listed first, and what is listed last comes first in the package. -/
theorem document_order_lost :
    let text := "
packages:
- name: main
  import_path: acme/main
  markers:
    tektasker:workspace:
    - name: first
    +tektasker:workspace:
    - name: second
    tektasker:task:
    - name: greet
      version: '0.1'
    +tektasker:task:
    - name: late
      version: '0.1'
"
    ∃ l, listings text = some [l] ∧ parse text = some [l.toRaw] ∧
      (taken workspace? l.markers.all).map (·.name) = ["first", "second"] ∧
      l.toRaw.toPackage.value.workspaces.map (·.name) = ["second", "first"] ∧
      (taken task? l.markers.all).head? = some ⟨"greet", "0.1"⟩ ∧
      l.toRaw.toPackage.value.task = some ⟨"late", "0.1"⟩ := by
  intro text
  have listed : (listings text).map (List.map fun l =>
      ((taken workspace? l.markers.all).map (·.name),
        l.toRaw.toPackage.value.workspaces.map (·.name),
        (taken task? l.markers.all).head?, l.toRaw.toPackage.value.task)) =
      some [(["first", "second"], ["second", "first"], some ⟨"greet", "0.1"⟩,
        some ⟨"late", "0.1"⟩)] := by decide +kernel
  obtain ⟨ls, found, mapped⟩ := Option.map_eq_some_iff.mp listed
  obtain ⟨l, rfl, facts⟩ := List.map_eq_singleton_iff.mp mapped
  simp only [Prod.mk.injEq] at facts
  refine ⟨l, found, ?_, facts⟩
  rw [parse_eq, found]
  rfl

end TaskSynth.Snapshot
