import TaskSynth.Proofs.Marker.Decoding
import TaskSynth.Proofs.Marker.Record

/-! What becomes of a raw value, by the name that it stands under and the target that it is found
on. A name belongs to one target and to one kind of payload, or to another tool; a value in the
right place is decoded exactly when its kind accepts it. -/
namespace TaskSynth.Marker

open Json Outcome Keyed

section Payload

variable {kind : Kind} {field : String} {value : Json.Value} {payload : Payload}
  {given entries others : List (String × Json.Value)}

theorem given_of_accepts (accepted : kind.Accepts value) :
    (∀ e ∈ kind.given value, Admits e.1 e.2) ∧
      ∀ field ∈ kind.required, field ∈ (kind.given value).map Prod.fst := by
  cases accepted with
  | object fits complete => exact ⟨fun e member => (fits e member).2, complete⟩
  | @array items enough fits admitted =>
    refine ⟨admitted, fun field member => ?_⟩
    -- the required fields come first, so an array that is long enough reaches them all
    have first : kind.required <+: kind.names := by cases kind <;> decide
    rw [Kind.given, keys_zip]
    exact (List.prefix_take_iff.mpr ⟨first, enough⟩).subset member

theorem admits_iff :
    Admits field value ↔
      match FieldType.ofName field with
      | .text => ∃ s, value = .string s
      | .optionalText => value = .null ∨ ∃ s, value = .string s
      | .flag => ∃ b, value = .bool b := by
  unfold Admits FieldType.ofName
  split_ifs <;> rfl

theorem holdsText_of_admits (admitted : ∀ e ∈ given, Admits e.1 e.2)
    (typed : FieldType.ofName field = .text) :
    HoldsText (given.lookup field) ((Record.ofGiven given).text field) := by
  rw [HoldsText, Record.text, lookup_ofGiven]
  cases found : given.lookup field with
  | none => exact Or.inr ⟨rfl, rfl⟩
  | some v =>
    have own := admits_iff.mp (admitted _ (mem_of_lookup found))
    simp only [typed] at own
    obtain ⟨s, rfl⟩ := own
    exact Or.inl rfl

theorem holdsOptionalText_of_admits (admitted : ∀ e ∈ given, Admits e.1 e.2)
    (typed : FieldType.ofName field = .optionalText) :
    HoldsOptionalText (given.lookup field) ((Record.ofGiven given).text? field) := by
  rw [HoldsOptionalText, Record.text?, lookup_ofGiven]
  cases found : given.lookup field with
  | none => exact Or.inr ⟨Or.inr rfl, rfl⟩
  | some v =>
    have own := admits_iff.mp (admitted _ (mem_of_lookup found))
    simp only [typed] at own
    rcases own with rfl | ⟨s, rfl⟩
    · exact Or.inr ⟨Or.inl rfl, rfl⟩
    · exact Or.inl ⟨s, rfl, rfl⟩

theorem holdsFlag_of_admits (admitted : ∀ e ∈ given, Admits e.1 e.2)
    (typed : FieldType.ofName field = .flag) :
    HoldsFlag (given.lookup field) ((Record.ofGiven given).flag field) := by
  rw [HoldsFlag, Record.flag, lookup_ofGiven]
  cases found : given.lookup field with
  | none => exact Or.inr ⟨rfl, rfl⟩
  | some v =>
    have own := admits_iff.mp (admitted _ (mem_of_lookup found))
    simp only [typed] at own
    obtain ⟨b, rfl⟩ := own
    exact Or.inl rfl

theorem text_of_required (admitted : ∀ e ∈ given, Admits e.1 e.2)
    (typed : FieldType.ofName field = .text) (present : field ∈ given.map Prod.fst) :
    given.lookup field = some (.string ((Record.ofGiven given).text field)) := by
  rcases holdsText_of_admits admitted typed with held | ⟨absent, _⟩
  · exact held
  · have found := lookup_isSome_iff_mem.mpr present
    rw [absent] at found
    cases found

theorem holds_payload (admitted : ∀ e ∈ given, Admits e.1 e.2)
    (complete : ∀ field ∈ kind.required, field ∈ given.map Prod.fst) :
    (Kind.payload (.ofGiven given) kind).Holds given := by
  have named : "name" ∈ kind.required := by cases kind <;> decide
  have name := text_of_required admitted (by decide) (complete _ named)
  cases kind with
  | task => exact ⟨name, text_of_required admitted (by decide) (complete _ (by decide))⟩
  | param =>
    exact ⟨name, holdsOptionalText_of_admits admitted (by decide),
      holdsFlag_of_admits admitted (by decide)⟩
  | result => exact name
  | workspace =>
    exact ⟨name, holdsText_of_admits admitted (by decide),
      holdsOptionalText_of_admits admitted (by decide), holdsFlag_of_admits admitted (by decide),
      holdsFlag_of_admits admitted (by decide)⟩

theorem Kind.decode_eq_ok_iff :
    kind.decode value = .ok payload ↔
      kind.Accepts value ∧ payload = Kind.payload (.ofGiven (kind.given value)) kind := by
  simp only [Kind.decode, map_eq_ok_iff, record_eq_ok_iff]
  constructor
  · rintro ⟨_, ⟨accepted, rfl⟩, rfl⟩
    exact ⟨accepted, rfl⟩
  · rintro ⟨accepted, rfl⟩
    exact ⟨_, ⟨accepted, rfl⟩, rfl⟩

theorem Kind.exists_decode_iff :
    (∃ payload, kind.decode value = .ok payload) ↔ kind.Accepts value := by
  simp only [Kind.decode_eq_ok_iff, exists_and_left, exists_eq, and_true]

theorem Kind.holds_of_decode (decoded : kind.decode value = .ok payload) :
    payload.Holds (kind.given value) := by
  obtain ⟨accepted, rfl⟩ := Kind.decode_eq_ok_iff.mp decoded
  obtain ⟨admitted, complete⟩ := given_of_accepts accepted
  exact holds_payload admitted complete

/-- A payload is read off its record by the names of the fields. -/
theorem payload_congr {r s : Record} (same : ∀ field, r.lookup field = s.lookup field)
    (kind : Kind) : Kind.payload r kind = Kind.payload s kind := by
  cases kind <;> simp only [Kind.payload, Record.text, Record.text?, Record.flag, same]

theorem Kind.decode_of_perm (perm : entries.Perm others) (distinct : (entries.map Prod.fst).Nodup)
    (decoded : kind.decode (.object entries) = .ok payload) :
    kind.decode (.object others) = .ok payload := by
  obtain ⟨accepted, rfl⟩ := Kind.decode_eq_ok_iff.mp decoded
  refine Kind.decode_eq_ok_iff.mpr ⟨?_, payload_congr (fun field => ?_) kind⟩
  · cases accepted with
    | object fits complete =>
      exact .object (fun e member => fits e (perm.mem_iff.mpr member))
        fun field member => (perm.map Prod.fst).mem_iff.mp (complete field member)
  · rw [lookup_ofGiven, lookup_ofGiven]
    exact congrArg _ (lookup_of_perm perm distinct field)

end Payload

/-- The names of markers, with the target that each belongs to and the kind of its payload. -/
def placements : List (String × Target × Kind) :=
  [("tektasker:task", .package, .task), ("tektasker:param", .type, .param),
   ("tektasker:result", .type, .result), ("tektasker:workspace", .package, .workspace)]

def Belongs (name : String) (target : Target) (kind : Kind) : Prop :=
  (name, target, kind) ∈ placements

/-- What becomes of a raw value under a name that is `n` when a leading plus sign is left out. -/
structure Settles (name n : String) (target : Target) (value : Json.Value) : Prop where
  spelt : name = "+" ++ n ∨ name = n ∧ n.toList.head? ≠ some '+'
  foreign : decode name target value = .ok none ↔ ∀ t k, ¬ Belongs n t k
  misplaced : decode name target value = .error (.wrongTarget name target) ↔
    ∃ t k, Belongs n t k ∧ target ≠ t
  accepted : (∃ payload, decode name target value = .ok (some payload)) ↔
    ∃ k, Belongs n target k ∧ k.Accepts value
  payload : ∀ payload, decode name target value = .ok (some payload) →
    Belongs n target payload.kind ∧ payload.Holds (payload.kind.given value)
  refused : (∃ cause, decode name target value = .error (.payloadMismatch n cause)) ↔
    ∃ k, Belongs n target k ∧ ¬ k.Accepts value

section Registry

variable {name n : String} {target t t' : Target} {k k' : Kind} {value : Json.Value}
  {entries others : List (String × Json.Value)}

theorem Belongs.iff (placed : Belongs n t k) : Belongs n t' k' ↔ t' = t ∧ k' = k := by
  have distinct : (placements.map Prod.fst).Nodup := by decide
  constructor
  · intro other
    simpa using List.inj_on_of_nodup_map distinct other placed rfl
  · rintro ⟨rfl, rfl⟩
    exact placed

theorem belongs_iff :
    Belongs n t k ↔ ∃ d ∈ definitions, d.name = n ∧ d.target = t ∧ d.kind = k := by
  have placed : placements = definitions.map fun d => (d.name, d.target, d.kind) := rfl
  simp only [Belongs, placed, List.mem_map, Prod.mk.injEq]

theorem isKnown_iff : isKnown name = true ↔ ∃ t k, Belongs (bareName name) t k := by
  simp only [isKnown, List.any_eq_true, beq_iff_eq, belongs_iff]
  constructor
  · rintro ⟨d, member, named⟩
    exact ⟨d.target, d.kind, d, member, named, rfl, rfl⟩
  · rintro ⟨_, _, d, member, named, _, _⟩
    exact ⟨d, member, named⟩

theorem belongs_of_lookup {d : Definition} (found : lookup name target = some d) :
    d.name = bareName name ∧ Belongs (bareName name) target d.kind := by
  have matched := List.find?_some found
  simp only [Bool.and_eq_true, beq_iff_eq] at matched
  exact ⟨matched.1, belongs_iff.mpr ⟨d, List.mem_of_find?_eq_some found, matched.1, matched.2, rfl⟩⟩

theorem lookup_of_belongs (placed : Belongs (bareName name) target k) :
    ∃ d, lookup name target = some d ∧ d.name = bareName name ∧ d.kind = k := by
  obtain ⟨d, member, named, targeted, _⟩ := belongs_iff.mp placed
  have matched : (d.name == bareName name && d.target == target) = true := by
    rw [named, targeted, beq_self_eq_true, beq_self_eq_true, Bool.and_self]
  have some : (lookup name target).isSome := List.find?_isSome.mpr ⟨d, member, matched⟩
  obtain ⟨d, found⟩ := Option.isSome_iff_exists.mp some
  obtain ⟨named, own⟩ := belongs_of_lookup found
  exact ⟨d, found, named, (placed.iff.mp own).2⟩

theorem decode_of_foreign (foreign : ∀ t k, ¬ Belongs (bareName name) t k) :
    decode name target value = .ok none := by
  refine decode_of_not_isKnown (Bool.eq_false_iff.mpr fun known => ?_)
  obtain ⟨t, k, placed⟩ := isKnown_iff.mp known
  exact foreign t k placed

theorem decode_of_misplaced (placed : Belongs (bareName name) t k) (other : target ≠ t) :
    decode name target value = .error (.wrongTarget name target) := by
  have known : isKnown name = true := isKnown_iff.mpr ⟨t, k, placed⟩
  have none : lookup name target = none := by
    refine Option.eq_none_iff_forall_ne_some.mpr fun d found => ?_
    exact other (placed.iff.mp (belongs_of_lookup found).2).1
  simp only [decode, none, known, if_true]

theorem decode_of_belongs (placed : Belongs (bareName name) target k) (value : Json.Value) :
    decode name target value =
      match k.decode value with
      | .ok payload => .ok (some payload)
      | .error cause => .error (.payloadMismatch (bareName name) cause) := by
  obtain ⟨d, found, named, rfl⟩ := lookup_of_belongs placed
  cases decoded : d.kind.decode value <;> simp only [decode, found, named, decoded]

theorem settles_bareName (name : String) (target : Target) (value : Json.Value) :
    Settles name (bareName name) target value := by
  -- each case has one outcome, and every field is read off it
  by_cases known : ∃ t k, Belongs (bareName name) t k
  · obtain ⟨t, k, placed⟩ := known
    have only {t' : Target} {k' : Kind} : Belongs (bareName name) t' k' ↔ t' = t ∧ k' = k :=
      placed.iff
    by_cases own : target = t
    · subst own
      have outcome := decode_of_belongs placed value
      cases decoded : k.decode value with
      | ok payload =>
        rw [decoded] at outcome
        have accepted := Kind.exists_decode_iff.mp ⟨payload, decoded⟩
        have kind := Kind.kind_of_decode decoded
        have holds := Kind.holds_of_decode decoded
        subst kind
        constructor <;> simp [outcome, only, spelt_bareName, accepted, holds]
      | error cause =>
        rw [decoded] at outcome
        have refused : ¬ k.Accepts value := by simp [← Kind.exists_decode_iff, decoded]
        constructor <;> simp [outcome, only, spelt_bareName, refused]
    · have outcome : decode name target value = .error (.wrongTarget name target) :=
        decode_of_misplaced placed own
      constructor <;> simp [outcome, only, own, spelt_bareName]
  · have foreign (t : Target) (k : Kind) : ¬ Belongs (bareName name) t k :=
      fun placed => known ⟨t, k, placed⟩
    have outcome : decode name target value = .ok none := decode_of_foreign foreign
    constructor <;> simp [outcome, spelt_bareName, foreign]

theorem decode_signed (unsigned : n.toList.head? ≠ some '+') {found : Option Payload} :
    decode ("+" ++ n) target value = .ok found ↔ decode n target value = .ok found := by
  have signed : bareName ("+" ++ n) = n := by simp [bareName]
  have bare : bareName n = n := by
    rcases spelt_bareName n with spelt | ⟨spelt, _⟩
    · exact absurd (by rw [spelt]; simp) unsigned
    · exact spelt.symm
  have looked : lookup ("+" ++ n) target = lookup n target := by simp only [lookup, signed, bare]
  have known : isKnown ("+" ++ n) = isKnown n := by simp only [isKnown, signed, bare]
  unfold decode
  rw [looked, known]
  cases lookup n target with
  | some d => rfl
  | none => cases isKnown n <;> simp

theorem decode_of_perm (perm : entries.Perm others) (distinct : (entries.map Prod.fst).Nodup)
    {found : Option Payload} (decoded : decode name target (.object entries) = .ok found) :
    decode name target (.object others) = .ok found := by
  unfold decode at decoded ⊢
  split at decoded
  · rename_i d _
    split at decoded
    · rename_i own
      cases decoded
      rw [Kind.decode_of_perm perm distinct own]
    · cases decoded
  · exact decoded

end Registry

/-- Every raw value is settled by its name, its target and the kind that they lead to. The order of
the keys of an object makes no difference to what is decoded, and neither does a plus sign before
the name. -/
theorem decode_settled :
    (∀ name target value, ∃ n, Settles name n target value) ∧
    (∀ name target (entries others : List (String × Json.Value)), entries.Perm others →
      (entries.map Prod.fst).Nodup → ∀ found,
        decode name target (.object entries) = .ok found ↔
          decode name target (.object others) = .ok found) ∧
    ∀ n target value, n.toList.head? ≠ some '+' → ∀ found,
      decode ("+" ++ n) target value = .ok found ↔ decode n target value = .ok found := by
  refine ⟨fun name target value => ⟨_, settles_bareName name target value⟩, ?_, ?_⟩
  · intro name target entries others perm distinct found
    have distinct' : (others.map Prod.fst).Nodup := (perm.map Prod.fst).nodup_iff.mp distinct
    exact ⟨decode_of_perm perm distinct, decode_of_perm perm.symm distinct'⟩
  · intro n target value unsigned found
    exact decode_signed unsigned

/-- A param with its keys in another order, and under the name with a plus sign; the default is
there, but it is null. -/
theorem decode_settled_reordered :
    let entries : List (String × Json.Value) :=
      [("strict", .bool true), ("default", .null), ("name", .string "msg")]
    let payload : Payload := .param ⟨"msg", none, true⟩
    decode "tektasker:param" .type (.object entries.reverse) = .ok (some payload) ∧
    decode "+tektasker:param" .type (.object entries) = .ok (some payload) ∧
    payload.Holds entries := by
  intro entries payload
  have decoded : decode "tektasker:param" .type (.object entries) = .ok (some payload) := rfl
  obtain ⟨n, settled⟩ := decode_settled.1 "tektasker:param" .type (.object entries)
  refine ⟨?_, ?_, (settled.payload payload decoded).2⟩
  · exact (decode_settled.2.1 _ _ _ _ (List.reverse_perm entries).symm (by decide) _).mp decoded
  · exact (decode_settled.2.2 _ _ _ (by decide) _).mpr decoded

end TaskSynth.Marker
