import Mathlib.Data.List.Forall2
import TaskSynth.Proofs.Marker.Decoding
import TaskSynth.Proofs.Snapshot.Markers
import TaskSynth.Snapshot.Translation

namespace TaskSynth

def EntityMarker.payload : EntityMarker → Marker.Payload
  | .param p => .param p
  | .result r => .result r

namespace Snapshot

open Marker (payload? Payload)

/-- The payloads of the values under some names, in the order of the names and, under each name,
in the order of the values. -/
def payloads (target : Marker.Target) (names : List String) (m : RawMarkers) : List Payload :=
  names.flatMap fun n => (m.values n).filterMap fun v => payload? target (n, v)

/-- The first of the markers if all are of one kind. -/
def chosen : List EntityMarker → Option EntityMarker
  | [] => none
  | m :: rest => if ∀ x ∈ rest, x.kind = m.kind then some m else none

section Values

variable {context : Log.Context} {target : Marker.Target}

theorem decodeValues_value (context : Log.Context) (target : Marker.Target)
    (es : List (String × Json.Value)) :
    (decodeValues context target es).value = es.filterMap (payload? target) := by
  induction es with
  | nil => rfl
  | cons e rest ih =>
    obtain ⟨name, value⟩ := e
    rw [decodeValues, List.filterMap_cons, payload?]
    cases Marker.decode name target value with
    | error e => exact ih
    | ok payload =>
      cases payload with
      | none => exact ih
      | some payload => exact congrArg (payload :: ·) ih

theorem chooseMarker_value (context : Log.Context) (ms : List EntityMarker) :
    (chooseMarker context ms).value = chosen ms := by
  cases ms with
  | nil => rfl
  | cons m rest =>
    have conflict : (rest.any fun x => x.kind ≠ m.kind) = true ↔ ¬ ∀ x ∈ rest, x.kind = m.kind := by
      simp
    rw [chooseMarker, chosen, Logged.value_bind]
    by_cases alike : ∀ x ∈ rest, x.kind = m.kind
    · rw [if_neg (fun h => conflict.mp h alike), if_pos alike]
      rfl
    · rw [if_pos (conflict.mpr alike), if_neg alike]
      rfl

theorem toEntity_value (context : Log.Context) (t : RawType) :
    (t.toEntity context).value =
      (chosen ((t.markers.all.filterMap (payload? .type)).filterMap entityMarker?)).map fun m =>
        ⟨t.name, t.doc, t.shape, m⟩ := by
  simp only [RawType.toEntity, Logged.value_bind, Logged.value_pure, decodeValues_value,
    chooseMarker_value]

theorem entities_value (context : Log.Context) (ts : List RawType) :
    (entities context ts).value = ts.filterMap fun t => (t.toEntity context).value := by
  induction ts with
  | nil => rfl
  | cons t rest ih =>
    simp only [entities, Logged.value_bind, Logged.value_pure, ih, List.filterMap_cons]
    cases (t.toEntity context).value <;> rfl

theorem toPackage_value (p : RawPackage) :
    let found := p.markers.all.filterMap (payload? .package)
    p.toPackage.value = ⟨p.name, p.importPath, p.dir, p.fileDocs, (found.filterMap task?).head?,
      found.filterMap workspace?,
      p.types.filterMap fun t => (t.toEntity (.ofPackage reporter p.name)).value⟩ := by
  simp only [RawPackage.toPackage, Logged.value_bind, Logged.value_pure, decodeValues_value,
    entities_value]

end Values

/-- A type whose payloads are all params or all results, and which has at least one. -/
def Marked (names : List String) (t : RawType) : Prop :=
  payloads .type names t.markers ≠ [] ∧
    ((∀ x ∈ payloads .type names t.markers, x.kind = .param) ∨
      ∀ x ∈ payloads .type names t.markers, x.kind = .result)

instance (names : List String) : DecidablePred (Marked names) := fun _ =>
  inferInstanceAs (Decidable (_ ∧ (_ ∨ _)))

structure IsEntityOf (names : List String) (t : RawType) (e : Entity) : Prop where
  name : e.name = t.name
  doc : e.doc = t.doc
  shape : e.shape = t.shape
  marker : (payloads .type names t.markers).head? = some e.marker.payload

structure Translates (names : List String) (p : RawPackage) (q : Package) : Prop where
  name : q.name = p.name
  importPath : q.importPath = p.importPath
  dir : q.dir = p.dir
  fileDocs : q.fileDocs = p.fileDocs
  task : q.task = ((payloads .package names p.markers).filterMap task?).head?
  workspaces : q.workspaces = (payloads .package names p.markers).filterMap workspace?
  entities : List.Forall₂ (IsEntityOf names) (p.types.filter fun t => Marked names t) q.entities

def RawPackage.markerNames (p : RawPackage) : List String :=
  p.markers.names ++ p.types.flatMap fun t => t.markers.names

section Meaning

variable {names : List String} {m : RawMarkers} {t : RawType} {p : RawPackage}

theorem payloads_eq_filterMap (target : Marker.Target) (ascending : Ascending names)
    (covered : ∀ n ∈ m.names, n ∈ names) :
    payloads target names m = m.all.filterMap (payload? target) :=
  (m.filterMap_all ascending fun n member absent => absurd (covered n member) absent).symm

theorem kind_payload (m : EntityMarker) :
    (m.kind = .param ↔ m.payload.kind = .param) ∧ (m.kind = .result ↔ m.payload.kind = .result) := by
  cases m <;> simp [EntityMarker.kind, EntityMarker.payload, Payload.kind]

theorem exists_marker {x : Payload} (kind : x.kind = .param ∨ x.kind = .result) :
    ∃ m : EntityMarker, x = m.payload := by
  cases x with
  | task t => rcases kind with kind | kind <;> cases kind
  | param p => exact ⟨.param p, rfl⟩
  | result r => exact ⟨.result r, rfl⟩
  | workspace w => rcases kind with kind | kind <;> cases kind

theorem filterMap_payload (ms : List EntityMarker) :
    (ms.map EntityMarker.payload).filterMap entityMarker? = ms := by
  induction ms with
  | nil => rfl
  | cons m rest ih => cases m <;> simpa [EntityMarker.payload, entityMarker?] using ih

theorem exists_markers_of_values (es : List (String × Json.Value)) :
    ∃ ms : List EntityMarker, es.filterMap (payload? .type) = ms.map EntityMarker.payload := by
  induction es with
  | nil => exact ⟨[], rfl⟩
  | cons e rest ih =>
    obtain ⟨ms, others⟩ := ih
    rw [List.filterMap_cons, others]
    cases own : payload? .type e with
    | none => exact ⟨ms, rfl⟩
    | some x =>
      have decoded := Marker.payload?_eq_some_iff.mp own
      obtain ⟨m, rfl⟩ := exists_marker ((Marker.kind_of_type decoded).imp And.left And.left)
      exact ⟨m :: ms, rfl⟩

theorem exists_markers (names : List String) (m : RawMarkers) :
    ∃ ms : List EntityMarker, payloads .type names m = ms.map EntityMarker.payload := by
  have values : payloads .type names m =
      (names.flatMap fun n => (m.values n).map fun v => (n, v)).filterMap (payload? .type) := by
    simp only [payloads, List.filterMap_flatMap, List.filterMap_map, Function.comp_def]
  exact values ▸ exists_markers_of_values _

theorem toEntity_cases (context : Log.Context) (ascending : Ascending names)
    (covered : ∀ n ∈ t.markers.names, n ∈ names) :
    (Marked names t ∧ ∃ e, (t.toEntity context).value = some e ∧ IsEntityOf names t e) ∨
      ¬ Marked names t ∧ (t.toEntity context).value = none := by
  obtain ⟨ms, found⟩ := exists_markers names t.markers
  have value : (t.toEntity context).value = (chosen ms).map fun m => ⟨t.name, t.doc, t.shape, m⟩ := by
    rw [toEntity_value, ← payloads_eq_filterMap .type ascending covered, found,
      filterMap_payload]
  cases ms with
  | nil => exact Or.inr ⟨fun marked => marked.1 found, value⟩
  | cons m rest =>
    have marked : Marked names t ↔ ∀ x ∈ rest, x.kind = m.kind := by
      rw [Marked, found]
      simp only [List.map_cons, List.forall_mem_cons, List.forall_mem_map, ← (kind_payload _).1,
        ← (kind_payload _).2]
      cases m.kind <;> simp
    by_cases alike : ∀ x ∈ rest, x.kind = m.kind
    · refine Or.inl ⟨marked.mpr alike, ⟨t.name, t.doc, t.shape, m⟩, ?_, rfl, rfl, rfl, ?_⟩
      · rw [value, chosen, if_pos alike]
        rfl
      · rw [found]
        rfl
    · refine Or.inr ⟨fun h => alike (marked.mp h), ?_⟩
      rw [value, chosen, if_neg alike]
      rfl

theorem translates_toPackage (ascending : Ascending names)
    (covered : ∀ n ∈ p.markerNames, n ∈ names) : Translates names p p.toPackage.value := by
  obtain ⟨own, others⟩ := List.forall_mem_append.mp covered
  have found := payloads_eq_filterMap .package ascending own
  rw [toPackage_value, ← found]
  refine ⟨rfl, rfl, rfl, rfl, rfl, rfl, ?_⟩
  have covered : ∀ t ∈ p.types, ∀ n ∈ t.markers.names, n ∈ names := fun t member n named =>
    others n (List.mem_flatMap.mpr ⟨t, member, named⟩)
  generalize p.types = ts at covered
  simp only
  induction ts with
  | nil => exact .nil
  | cons t rest ih =>
    obtain ⟨named, covered⟩ := List.forall_mem_cons.mp covered
    rcases toEntity_cases (.ofPackage reporter p.name) ascending named with
      ⟨marked, e, value, entity⟩ | ⟨unmarked, value⟩
    · simp only [List.filterMap_cons, List.filter_cons, marked, decide_true, if_true, value]
      exact .cons entity (ih covered)
    · simp only [List.filterMap_cons, List.filter_cons, unmarked, decide_false, value]
      exact ih covered

theorem payload_injective : Function.Injective EntityMarker.payload := by
  intro m n same
  cases m <;> cases n <;> simp_all [EntityMarker.payload]

theorem IsEntityOf.unique {e e' : Entity} (own : IsEntityOf names t e)
    (other : IsEntityOf names t e') : e = e' := by
  obtain ⟨name, doc, shape, marker⟩ := e
  obtain ⟨rfl, rfl, rfl, first⟩ := own
  obtain ⟨name', doc', shape', marker'⟩ := e'
  obtain ⟨rfl, rfl, rfl, first'⟩ := other
  have same := payload_injective (Option.some.inj (first.symm.trans first'))
  simp only at same
  rw [same]

theorem Translates.unique {q q' : Package} (own : Translates names p q)
    (other : Translates names p q') : q = q' := by
  have functional : Relator.RightUnique (IsEntityOf names) := fun _ _ _ own other =>
    own.unique other
  have entities : q.entities = q'.entities := functional.forall₂ own.entities other.entities
  obtain ⟨name, importPath, dir, fileDocs, task, workspaces, own⟩ := q
  obtain ⟨rfl, rfl, rfl, rfl, rfl, rfl, -⟩ := own
  obtain ⟨name', importPath', dir', fileDocs', task', workspaces', other⟩ := q'
  obtain ⟨rfl, rfl, rfl, rfl, rfl, rfl, -⟩ := other
  simp only at entities
  rw [entities]

end Meaning

/-- One value more that has no payload on the target, somewhere among the values of its name. -/
def RawMarkers.Pads (target : Marker.Target) (m m' : RawMarkers) : Prop :=
  ∃ name front back value, m.values name = front ++ back ∧
    (∀ payload, Marker.decode name target value ≠ .ok (some payload)) ∧
    m' = m.put name (front ++ value :: back)

/-- A raw package with any number of values more that have no payload where they stand. -/
inductive RawPackage.Padded (p : RawPackage) : RawPackage → Prop where
  | refl : Padded p p
  | package {q : RawPackage} {m : RawMarkers} (before : Padded p q)
      (pads : RawMarkers.Pads .package q.markers m) : Padded p { q with markers := m }
  | type {q : RawPackage} {front back : List RawType} {t : RawType} {m : RawMarkers}
      (before : Padded p q) (types : q.types = front ++ t :: back)
      (pads : RawMarkers.Pads .type t.markers m) :
      Padded p { q with types := front ++ { t with markers := m } :: back }

section Padding

variable {target : Marker.Target} {m m' : RawMarkers} {p q : RawPackage}

theorem RawMarkers.Pads.payloads (pads : Pads target m m') :
    m'.all.filterMap (payload? target) = m.all.filterMap (payload? target) := by
  obtain ⟨name, front, back, value, holds, undecodable, rfl⟩ := pads
  exact filterMap_put_insert holds (Marker.payload?_eq_none_iff.mpr undecodable)

theorem RawPackage.Padded.toPackage_value (padded : p.Padded q) :
    q.toPackage.value = p.toPackage.value := by
  induction padded with
  | refl => rfl
  | package before pads ih =>
    rw [← ih, Snapshot.toPackage_value, Snapshot.toPackage_value, pads.payloads]
  | @type q front back t m before types pads ih =>
    -- The type itself is as it was, and it has the payloads that it had.
    have same (context : Log.Context) :
        (RawType.toEntity context { t with markers := m }).value = (t.toEntity context).value := by
      rw [toEntity_value, toEntity_value, pads.payloads]
    rw [← ih, Snapshot.toPackage_value, Snapshot.toPackage_value, types]
    simp only [List.filterMap_append, List.filterMap_cons, same]

end Padding

/-- A raw package is translated to the one package that its payloads make, and values without a
payload make no difference, whatever their number and wherever they stand. -/
theorem translation_exact (p : RawPackage) :
    (∀ names, Ascending names → (∀ n ∈ p.markerNames, n ∈ names) →
      ∀ q, Translates names p q ↔ q = p.toPackage.value) ∧
    ∀ q, p.Padded q → q.toPackage.value = p.toPackage.value := by
  refine ⟨fun names ascending covered q => ?_, fun q padded => padded.toPackage_value⟩
  have translated := translates_toPackage ascending covered
  exact ⟨fun own => own.unique translated, fun same => same ▸ translated⟩

/-- Two spellings at the package, a type with a repeated marker and one with two kinds; then a
foreign value at the package and a refused one at a type. -/
theorem translation_exact_spellings :
    let named (name : String) : Json.Value := .object [("name", .string name)]
    let task (name : String) : Json.Value :=
      .object [("name", .string name), ("version", .string "0.1")]
    let message (values : List Json.Value) : RawType :=
      ⟨"Message", "", .array, .ofEntries [("tektasker:param", values)]⟩
    let both : RawType := ⟨"Both", "", .map,
      .ofEntries [("tektasker:param", [named "both"]), ("+tektasker:result", [named "both"])]⟩
    let p : RawPackage := ⟨"main", "acme/main", "src", [],
      .ofEntries [("tektasker:task", [task "late"]), ("+tektasker:task", [task "greet"])],
      [message [named "first", named "again"], both]⟩
    let q : RawPackage := { p with
      markers := p.markers.put "+other:tool" [.null]
      types := [message [named "first", .null, named "again"], both] }
    let names := ["+tektasker:result", "+tektasker:task", "tektasker:param", "tektasker:task"]
    Translates names p p.toPackage.value ∧ p.Padded q ∧
      q.toPackage.value = ⟨"main", "acme/main", "src", [], some ⟨"greet", "0.1"⟩, [],
        [⟨"Message", "", .array, .param ⟨"first", none, false⟩⟩]⟩ := by
  intro named task message both p q names
  obtain ⟨exact, padding⟩ := translation_exact p
  have foreign : RawMarkers.Pads .package p.markers q.markers :=
    ⟨"+other:tool", [], [], .null, rfl,
      Marker.payload?_eq_none_iff.mp (by decide +kernel), rfl⟩
  have refused : RawMarkers.Pads .type (message [named "first", named "again"]).markers
      (message [named "first", .null, named "again"]).markers :=
    ⟨"tektasker:param", [named "first"], [named "again"], .null, rfl,
      Marker.payload?_eq_none_iff.mp (by decide +kernel), rfl⟩
  have padded : p.Padded q :=
    @RawPackage.Padded.type p { p with markers := q.markers } [] [both] _ _
      (.package .refl foreign) rfl refused
  refine ⟨(exact names (by decide +kernel) (by decide +kernel) _).mpr rfl, padded, ?_⟩
  rw [padding q padded]
  decide +kernel

end Snapshot

end TaskSynth
