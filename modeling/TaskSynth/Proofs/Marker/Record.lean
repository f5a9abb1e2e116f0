import Mathlib.Tactic.SplitIfs
import TaskSynth.Marker.Payload
import TaskSynth.Proofs.Keyed
import TaskSynth.Proofs.Outcome

namespace TaskSynth.Marker

open Json Outcome Keyed

def Admits (field : String) (value : Json.Value) : Prop :=
  if field = "strict" ∨ field = "readOnly" ∨ field = "optional" then ∃ b, value = .bool b
  else if field = "default" ∨ field = "mountPath" then value = .null ∨ ∃ s, value = .string s
  else ∃ s, value = .string s

namespace Kind

def names : Kind → List String
  | task => ["name", "version"]
  | param => ["name", "default", "strict"]
  | result => ["name"]
  | workspace => ["name", "description", "mountPath", "readOnly", "optional"]

/-- The fields without a default. They come first. -/
def required : Kind → List String
  | task => ["name", "version"]
  | _ => ["name"]

inductive Accepts (kind : Kind) : Json.Value → Prop where
  | object {entries : List (String × Json.Value)} :
      (∀ e ∈ entries, e.1 ∈ kind.names ∧ Admits e.1 e.2) →
      (∀ field ∈ kind.required, field ∈ entries.map Prod.fst) → Accepts kind (.object entries)
  | array {items : List Json.Value} :
      kind.required.length ≤ items.length → items.length ≤ kind.names.length →
      (∀ e ∈ kind.names.zip items, Admits e.1 e.2) → Accepts kind (.array items)

def given (kind : Kind) : Json.Value → List (String × Json.Value)
  | .object entries => entries
  | .array items => kind.names.zip items
  | _ => []

end Kind

def HoldsText (given : Option Json.Value) (s : String) : Prop :=
  given = some (.string s) ∨ given = none ∧ s = ""

/-- A text, or none where nothing or a null is given. -/
def HoldsOptionalText (given : Option Json.Value) (s : Option String) : Prop :=
  (∃ t, given = some (.string t) ∧ s = some t) ∨ (given = some .null ∨ given = none) ∧ s = none

/-- A flag, which is off where none is given. -/
def HoldsFlag (given : Option Json.Value) (b : Bool) : Prop :=
  given = some (.bool b) ∨ given = none ∧ b = false

/-- A payload has the values that are given for its fields. -/
def Payload.Holds (given : List (String × Json.Value)) : Payload → Prop
  | task t =>
    given.lookup "name" = some (.string t.name) ∧ given.lookup "version" = some (.string t.version)
  | param p =>
    given.lookup "name" = some (.string p.name) ∧
      HoldsOptionalText (given.lookup "default") p.default ∧
      HoldsFlag (given.lookup "strict") p.strict
  | result r => given.lookup "name" = some (.string r.name)
  | workspace w =>
    given.lookup "name" = some (.string w.name) ∧
      HoldsText (given.lookup "description") w.description ∧
      HoldsOptionalText (given.lookup "mountPath") w.mountPath ∧
      HoldsFlag (given.lookup "readOnly") w.readOnly ∧
      HoldsFlag (given.lookup "optional") w.optional

def Datum.ofValue : Json.Value → Datum
  | .string s => .text s
  | .bool b => .flag b
  | _ => .absent

def Record.ofGiven (given : List (String × Json.Value)) : Record :=
  given.map fun e => (e.1, Datum.ofValue e.2)

/-- How the field of a name is read, whatever kind it belongs to. -/
def FieldType.ofName (field : String) : FieldType :=
  if field = "strict" ∨ field = "readOnly" ∨ field = "optional" then .flag
  else if field = "default" ∨ field = "mountPath" then .optionalText
  else .text

section

variable {kind : Kind} {field : String} {value : Json.Value} {datum : Datum} {f : Field}
  {given entries : List (String × Json.Value)} {items : List Json.Value} {r : Record}
  {payload : Payload}

theorem read_eq_ok_iff :
    (FieldType.ofName field).read value = .ok datum ↔
      Admits field value ∧ datum = .ofValue value := by
  unfold FieldType.ofName Admits
  split_ifs <;> cases value <;> simp [FieldType.read, Datum.ofValue, eq_comm]

theorem names_eq (kind : Kind) : kind.fields.map (·.name) = kind.names := by
  cases kind <;> rfl

theorem type_of_mem (member : f ∈ kind.fields) : f.type = .ofName f.name := by
  have typed : kind.fields.all fun f => f.type = .ofName f.name := by cases kind <;> rfl
  exact of_decide_eq_true (List.all_eq_true.mp typed f member)

theorem mem_required_iff :
    field ∈ kind.required ↔ ∃ f ∈ kind.fields, f.required = true ∧ f.name = field := by
  have fields : kind.required = (kind.fields.filter (·.required)).map (·.name) := by
    cases kind <;> rfl
  simp [fields, and_assoc]

theorem find?_eq_some (known : field ∈ kind.names) :
    ∃ f ∈ kind.fields, kind.fields.find? (·.name == field) = some f ∧ f.name = field := by
  rw [← names_eq, List.mem_map] at known
  obtain ⟨f, member, named⟩ := known
  have found : (kind.fields.find? (·.name == field)).isSome :=
    List.find?_isSome.mpr ⟨f, member, beq_iff_eq.mpr named⟩
  obtain ⟨g, own⟩ := Option.isSome_iff_exists.mp found
  have matched := List.find?_some own
  exact ⟨g, List.mem_of_find?_eq_some own, own, eq_of_beq matched⟩

theorem find?_eq_none (unknown : field ∉ kind.names) :
    kind.fields.find? (·.name == field) = none := by
  rw [List.find?_eq_none]
  rintro f member named
  exact unknown (names_eq kind ▸ List.mem_map.mpr ⟨f, member, beq_iff_eq.mp named⟩)

theorem ofEntries_eq_ok_iff :
    Record.ofEntries kind.fields entries = .ok r ↔
      (∀ e ∈ entries, e.1 ∈ kind.names ∧ Admits e.1 e.2) ∧ r = .ofGiven entries := by
  induction entries generalizing r with
  | nil => simp [Record.ofEntries, Record.ofGiven, eq_comm]
  | cons e rest ih =>
    rw [Record.ofEntries, List.forall_mem_cons]
    by_cases known : e.1 ∈ kind.names
    · obtain ⟨f, member, found, named⟩ := find?_eq_some known
      simp only [found, type_of_mem member, named, bind_eq_ok_iff, read_eq_ok_iff, ih, known]
      constructor
      · rintro ⟨_, ⟨admitted, rfl⟩, _, ⟨others, rfl⟩, same⟩
        exact ⟨⟨⟨trivial, admitted⟩, others⟩, (Except.ok.inj same).symm⟩
      · rintro ⟨⟨⟨-, admitted⟩, others⟩, rfl⟩
        exact ⟨_, ⟨admitted, rfl⟩, _, ⟨others, rfl⟩, rfl⟩
    · simp [find?_eq_none known, known]

theorem ofItems_eq_ok_iff {missing : Nat → Mismatch} {index : Nat} {fields : List Field}
    (typed : ∀ f ∈ fields, f.type = .ofName f.name) :
    Record.ofItems missing index fields items = .ok r ↔
      (∀ e ∈ (fields.map (·.name)).zip items, Admits e.1 e.2) ∧
        (∀ f ∈ fields.drop items.length, f.required = false) ∧
        r = .ofGiven ((fields.map (·.name)).zip items) := by
  induction fields generalizing index items r with
  | nil =>
    rw [Record.ofItems]
    constructor
    · intro made
      cases made
      simp [Record.ofGiven]
    · rintro ⟨-, -, rfl⟩
      rfl
  | cons f fields ih =>
    rw [List.forall_mem_cons] at typed
    cases items with
    | nil =>
      -- nothing is left to read: the induction goes on over the fields, which all need a default
      have rest : Record.ofItems missing (index + 1) fields [] = .ok r ↔ _ := ih typed.2
      simp only [List.zip_nil_right, List.length_nil, List.drop_zero, List.not_mem_nil,
        false_implies, implies_true, true_and] at rest ⊢
      rw [Record.ofItems, List.forall_mem_cons]
      cases f.required <;> simp [rest]
    | cons v rest =>
      rw [Record.ofItems]
      simp only [typed.1, bind_eq_ok_iff, read_eq_ok_iff, ih typed.2, List.map_cons,
        List.zip_cons_cons, List.forall_mem_cons, List.length_cons, List.drop_succ_cons]
      constructor
      · rintro ⟨_, ⟨admitted, rfl⟩, _, ⟨others, left, rfl⟩, same⟩
        exact ⟨⟨admitted, others⟩, left, (Except.ok.inj same).symm⟩
      · rintro ⟨⟨admitted, others⟩, left, rfl⟩
        exact ⟨_, ⟨admitted, rfl⟩, _, ⟨others, left, rfl⟩, rfl⟩

theorem lookup_ofGiven (given : List (String × Json.Value)) (field : String) :
    (Record.ofGiven given).lookup field = (given.lookup field).map .ofValue :=
  lookup_map_snd Datum.ofValue given field

theorem length_required_le_iff {count : Nat} :
    (∀ f ∈ kind.fields.drop count, f.required = false) ↔ kind.required.length ≤ count := by
  have defaulted : ∀ f ∈ kind.fields.drop kind.required.length, f.required = false := by
    cases kind <;> decide
  have needed : ∀ count < kind.required.length,
      ∃ f ∈ kind.fields.drop count, f.required = true := by
    cases kind <;> decide
  constructor
  · intro left
    by_contra short
    obtain ⟨f, member, required⟩ := needed count (Nat.not_le.mp short)
    rw [left f member] at required
    cases required
  · intro enough f member
    exact defaulted f (List.drop_subset_drop_left _ enough member)

theorem missing_eq_none_iff :
    (kind.fields.find? fun f => f.required && ((Record.ofGiven given).lookup f.name).isNone) =
        none ↔
      ∀ field ∈ kind.required, field ∈ given.map Prod.fst := by
  have absent (f : Field) : ((Record.ofGiven given).lookup f.name).isNone = true ↔
      f.name ∉ given.map Prod.fst := by
    rw [lookup_ofGiven, Option.isNone_map, ← lookup_isSome_iff_mem]
    cases given.lookup f.name <;> simp
  simp only [List.find?_eq_none, Bool.and_eq_true, absent, mem_required_iff]
  constructor
  · rintro none _ ⟨f, member, required, rfl⟩
    exact of_not_not fun missing => none f member ⟨required, missing⟩
  · rintro present f member ⟨required, missing⟩
    exact missing (present f.name ⟨f, member, required, rfl⟩)

theorem record_eq_ok_iff :
    kind.record value = .ok r ↔ kind.Accepts value ∧ r = .ofGiven (kind.given value) := by
  cases value with
  | object entries =>
    simp only [Kind.record, bind_eq_ok_iff, ofEntries_eq_ok_iff, Kind.given]
    constructor
    · rintro ⟨_, ⟨fits, rfl⟩, kept⟩
      split at kept
      · cases kept
      · rename_i complete
        cases kept
        exact ⟨.object fits (missing_eq_none_iff.mp complete), rfl⟩
    · rintro ⟨accepted, rfl⟩
      cases accepted with
      | object fits complete =>
        exact ⟨_, ⟨fits, rfl⟩, by rw [missing_eq_none_iff.mpr complete]⟩
  | array items =>
    have typed : ∀ f ∈ kind.fields, f.type = .ofName f.name := fun f => type_of_mem
    simp only [Kind.record, bind_eq_ok_iff, ofItems_eq_ok_iff typed, Kind.given, names_eq,
      length_required_le_iff]
    have width : kind.fields.length = kind.names.length := by rw [← names_eq, List.length_map]
    constructor
    · rintro ⟨_, ⟨admitted, enough, rfl⟩, kept⟩
      split at kept
      · rename_i fits
        cases kept
        exact ⟨.array enough (width ▸ fits) admitted, rfl⟩
      · cases kept
    · rintro ⟨accepted, rfl⟩
      cases accepted with
      | array enough fits admitted =>
        exact ⟨_, ⟨admitted, enough, rfl⟩, if_pos (width ▸ fits)⟩
  | _ =>
    constructor
    · intro kept
      cases kept
    · rintro ⟨⟨⟩, _⟩

end

end TaskSynth.Marker
