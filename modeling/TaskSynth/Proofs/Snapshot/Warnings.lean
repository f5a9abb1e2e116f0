import TaskSynth.Proofs.Snapshot.Translation

namespace TaskSynth.Snapshot

open Marker (isKnown payload? refusal? Payload)

def warned (events : List Log.Event) : List Log.Event := events.filter fun e => e.level = .warn

namespace RawMarkers

def found (target : Marker.Target) (m : RawMarkers) : List Payload :=
  m.all.filterMap (payload? target)

def kinds (target : Marker.Target) (m : RawMarkers) : List Marker.Kind :=
  (m.found target).map Payload.kind

/-- Why values are refused on a target, one cause for each such value. -/
def refused (target : Marker.Target) (m : RawMarkers) : List Marker.Error :=
  m.all.filterMap (refusal? target)

/-- How many values have a name that a marker goes by. -/
def knownCount (m : RawMarkers) : Nat := m.all.countP fun e => isKnown e.1

def known (m : RawMarkers) : RawMarkers where
  entries := m.entries.filter fun e => isKnown e.1
  ordered := m.ordered.sublist (List.filter_sublist.map Prod.fst)

end RawMarkers

def RawPackage.known (p : RawPackage) : RawPackage :=
  { p with
    markers := p.markers.known
    types := p.types.map fun t => { t with markers := t.markers.known } }

def refusalWarning (context : Log.Context) (cause : Marker.Error) : Log.Event :=
  context.warn ("skipping marker value: " ++ cause.message)

/-- How many come after the first and are of the same kind. -/
def repeats : List Marker.Kind → Nat
  | [] => 0
  | k :: rest => rest.count k

def Mixed (kinds : List Marker.Kind) : Prop := .param ∈ kinds ∧ .result ∈ kinds

instance : DecidablePred Mixed := fun _ => inferInstanceAs (Decidable (_ ∧ _))

/-- What is said of a payload that comes after another one of its kind. No type has payloads of
tasks or workspaces. -/
def keeping : List Payload → String
  | .param p :: _ => "param marker repeated, keeping '" ++ p.name ++ "'"
  | .result r :: _ => "result marker repeated, keeping '" ++ r.name ++ "'"
  | _ => ""

/-- The warnings about the values at a package itself: one for each that is refused, and one for
each task after the first. Each known value is warned of or kept. -/
structure RawPackage.Accounted (p : RawPackage) (ws : List Log.Event) : Prop where
  events : ws =
    (p.markers.refused .package).map (refusalWarning (.ofPackage reporter p.name)) ++
      List.replicate ((p.markers.kinds .package).count .task - 1)
        ((Log.Context.ofPackage reporter p.name).warn "task marker repeated, keeping the first one")
  length : ws.length =
    (p.markers.refused .package).length + ((p.markers.kinds .package).count .task - 1)
  fields : ∀ e ∈ ws, ("package", .bare p.name) ∈ e.fields ∧ ("entity", .quoted "") ∈ e.fields
  balance : p.markers.knownCount =
    ws.length + p.toPackage.value.task.toList.length + p.toPackage.value.workspaces.length

/-- The context in which a type of a package is reported. -/
def RawType.context (package : String) (t : RawType) : Log.Context :=
  { Log.Context.ofPackage reporter package with entity := some t.name }

/-- The warnings about the values at a type: one for each that is refused, one for each payload
after the first and of its kind, and one if there are payloads of both kinds. In this case the type
is skipped; in any other each known value is warned of or kept. -/
structure RawType.Accounted (package : String) (t : RawType) (ws : List Log.Event) : Prop where
  events : ws =
    (t.markers.refused .type).map (refusalWarning (t.context package)) ++
      List.replicate (repeats (t.markers.kinds .type))
        ((t.context package).warn (keeping (t.markers.found .type))) ++
      if Mixed (t.markers.kinds .type) then
        [(t.context package).warn "type carries both a param and a result marker, skipping it"]
      else []
  length : ws.length = (t.markers.refused .type).length + repeats (t.markers.kinds .type) +
    if Mixed (t.markers.kinds .type) then 1 else 0
  fields : ∀ e ∈ ws,
    ("package", .bare package) ∈ e.fields ∧ ("entity", .quoted t.name) ∈ e.fields
  skipped : Mixed (t.markers.kinds .type) →
    (t.toEntity (.ofPackage reporter package)).value = none
  balance : ¬ Mixed (t.markers.kinds .type) → t.markers.knownCount =
    ws.length + (t.toEntity (.ofPackage reporter package)).value.toList.length

section Events

theorem warned_append (es fs : List Log.Event) : warned (es ++ fs) = warned es ++ warned fs :=
  List.filter_append ..

theorem warned_self {es : List Log.Event} (each : ∀ e ∈ es, e.level = .warn) : warned es = es :=
  List.filter_eq_self.mpr fun e member => decide_eq_true (each e member)

theorem warned_flatMap {α : Type} (f : α → List Log.Event) (xs : List α) :
    warned (xs.flatMap f) = xs.flatMap fun x => warned (f x) :=
  List.filter_flatMap ..

theorem decodeValues_events (context : Log.Context) (target : Marker.Target)
    (es : List (String × Json.Value)) :
    (decodeValues context target es).events =
      (es.filterMap (refusal? target)).map (refusalWarning context) := by
  induction es with
  | nil => rfl
  | cons e rest ih =>
    obtain ⟨name, value⟩ := e
    rw [decodeValues, List.filterMap_cons, refusal?]
    cases Marker.decode name target value with
    | error cause =>
      exact congrArg (refusalWarning context cause :: ·) ih
    | ok payload =>
      cases payload with
      | none => exact ih
      | some payload => exact ih

/-- The kinds of the payloads that markers come from. -/
def kindsOf (ms : List EntityMarker) : List Marker.Kind := ms.map fun m => m.payload.kind

theorem kind_payload_eq_iff (m x : EntityMarker) :
    x.payload.kind = m.payload.kind ↔ x.kind = m.kind := by
  cases m <;> cases x <;> simp [EntityMarker.kind, EntityMarker.payload, Payload.kind]

theorem repeats_cons (m : EntityMarker) (rest : List EntityMarker) :
    repeats (kindsOf (m :: rest)) = rest.countP fun x => x.kind = m.kind := by
  rw [kindsOf, List.map_cons, repeats, List.count, List.countP_map]
  exact List.countP_congr fun x _ => by simp [kind_payload_eq_iff]

theorem mixed_cons_iff (m : EntityMarker) (rest : List EntityMarker) :
    Mixed (kindsOf (m :: rest)) ↔ ∃ x ∈ rest, x.kind ≠ m.kind := by
  have param (k : Entity.Kind) : k ≠ .result ↔ k = .param := by cases k <;> decide
  have result (k : Entity.Kind) : k ≠ .param ↔ k = .result := by cases k <;> decide
  simp only [Mixed, kindsOf, List.mem_map, ← (kind_payload _).1, ← (kind_payload _).2,
    List.mem_cons, exists_eq_or_imp]
  cases kind : m.kind <;> simp [param, result]

theorem keeping_cons (m : EntityMarker) (rest : List EntityMarker) :
    keeping ((m :: rest).map EntityMarker.payload) = repeated m := by
  cases m <;> rfl

theorem warned_chooseMarker (context : Log.Context) (ms : List EntityMarker) :
    warned (chooseMarker context ms).events =
      List.replicate (repeats (kindsOf ms))
          (context.warn (keeping (ms.map EntityMarker.payload))) ++
        if Mixed (kindsOf ms) then
          [context.warn "type carries both a param and a result marker, skipping it"]
        else [] := by
  cases ms with
  | nil => rfl
  | cons m rest =>
    have other : (rest.any fun x => x.kind ≠ m.kind) = true ↔ Mixed (kindsOf (m :: rest)) := by
      rw [mixed_cons_iff, List.any_eq_true]
      simp
    have repeated : (rest.filter fun x => x.kind = m.kind).map
          (fun _ => context.warn (repeated m)) =
        List.replicate (repeats (kindsOf (m :: rest))) (context.warn (repeated m)) := by
      rw [List.map_const', repeats_cons, List.countP_eq_length_filter]
    simp only [chooseMarker, Logged.events_bind, Logged.events_report, warned_append, repeated,
      keeping_cons]
    congr 1
    · exact warned_self fun e member => by rw [List.eq_of_mem_replicate member]; rfl
    · by_cases mixed : Mixed (kindsOf (m :: rest))
      · rw [if_pos (other.mpr mixed), if_pos mixed]
        rfl
      · rw [if_neg (fun h => mixed (other.mp h)), if_neg mixed]
        rfl

/-- Unless both kinds are there, the markers are the one that is chosen and those that repeat it. -/
theorem length_of_not_mixed (ms : List EntityMarker) (pure : ¬ Mixed (kindsOf ms)) :
    ms.length = repeats (kindsOf ms) + (chosen ms).toList.length := by
  cases ms with
  | nil => rfl
  | cons m rest =>
    have alike : ∀ x ∈ rest, x.kind = m.kind := by simpa [mixed_cons_iff] using pure
    have all : (rest.countP fun x => x.kind = m.kind) = rest.length :=
      List.countP_eq_length.mpr fun x member => decide_eq_true (alike x member)
    rw [repeats_cons, all, chosen, if_pos alike]
    rfl

theorem chosen_of_mixed (ms : List EntityMarker) (mixed : Mixed (kindsOf ms)) :
    chosen ms = none := by
  cases ms with
  | nil => rfl
  | cons m rest =>
    obtain ⟨x, member, other⟩ := (mixed_cons_iff m rest).mp mixed
    rw [chosen, if_neg fun alike => other (alike x member)]

theorem entities_events (context : Log.Context) (ts : List RawType) :
    (entities context ts).events = ts.flatMap fun t => (t.toEntity context).events := by
  induction ts with
  | nil => rfl
  | cons t rest ih =>
    simp only [entities, Logged.events_bind, Logged.events_pure, ih, List.flatMap_cons,
      List.append_nil]

end Events

section Counts

/-- A value of a known marker is refused or has a payload. -/
theorem knownCount_eq (target : Marker.Target) (m : RawMarkers) :
    m.knownCount = (m.refused target).length + (m.found target).length := by
  unfold RawMarkers.knownCount RawMarkers.refused RawMarkers.found
  induction m.all with
  | nil => rfl
  | cons e rest ih =>
    obtain ⟨name, value⟩ := e
    rw [List.countP_cons, List.filterMap_cons, List.filterMap_cons, ih]
    rcases Marker.settled_cases name target value with
      ⟨known, payload, own, fine⟩ | ⟨known, own, cause, refused⟩ | ⟨foreign, own, fine⟩
    · simp only [known, own, fine, List.length_cons, if_true]
      omega
    · simp only [known, own, refused, List.length_cons, if_true]
      omega
    · simp only [foreign, own, fine, Bool.false_eq_true, if_false]
      omega

theorem length_filterMap_kind {β : Type} {f : Payload → Option β} {kind : Marker.Kind}
    (own : ∀ x, (f x).isSome = (x.kind == kind)) (xs : List Payload) :
    (xs.filterMap f).length = (xs.map Payload.kind).count kind := by
  rw [List.length_filterMap_eq_countP, List.count, List.countP_map]
  exact List.countP_congr fun x _ => by rw [own, Function.comp_apply]

theorem isSome_task? (x : Payload) : (task? x).isSome = (x.kind == .task) := by
  cases x <;> rfl

theorem isSome_workspace? (x : Payload) : (workspace? x).isSome = (x.kind == .workspace) := by
  cases x <;> rfl

theorem length_found_package (m : RawMarkers) :
    (m.found .package).length =
      (m.kinds .package).count .task + (m.kinds .package).count .workspace := by
  unfold RawMarkers.kinds RawMarkers.found
  induction m.all with
  | nil => rfl
  | cons e rest ih =>
    rw [List.filterMap_cons]
    cases own : payload? .package e with
    | none => exact ih
    | some x =>
      simp only [List.length_cons, List.map_cons, List.count_cons, ih]
      rcases Marker.kind_of_package (Marker.payload?_eq_some_iff.mp own) with
        ⟨kind, -⟩ | ⟨kind, -⟩ <;>
      · simp only [kind]
        simp +arith

theorem length_eq_tail_head {α : Type} (xs : List α) :
    xs.length = xs.length - 1 + xs.head?.toList.length := by
  cases xs <;> simp

end Counts

/-- Warnings that are all reported in one context. -/
def In (context : Log.Context) (ws : List Log.Event) : Prop := ∀ e ∈ ws, ∃ text, e = context.warn text

section Accounts

variable {context : Log.Context} {ws vs : List Log.Event}

theorem In.append (front : In context ws) (back : In context vs) : In context (ws ++ vs) :=
  List.forall_mem_append.mpr ⟨front, back⟩

theorem in_refusals (context : Log.Context) (causes : List Marker.Error) :
    In context (causes.map (refusalWarning context)) :=
  List.forall_mem_map.mpr fun _ _ => ⟨_, rfl⟩

theorem in_replicate (context : Log.Context) (n : Nat) (text : String) :
    In context (List.replicate n (context.warn text)) :=
  fun _ member => ⟨text, List.eq_of_mem_replicate member⟩

theorem in_conflict (context : Log.Context) (kinds : List Marker.Kind) :
    In context (if Mixed kinds then
      [context.warn "type carries both a param and a result marker, skipping it"] else []) := by
  split
  · exact List.forall_mem_singleton.mpr ⟨_, rfl⟩
  · exact List.forall_mem_nil _

theorem In.warned_eq (own : In context ws) : warned ws = ws :=
  warned_self fun e member => by
    obtain ⟨text, rfl⟩ := own e member
    rfl

theorem In.fields (own : In context ws) : ∀ e ∈ ws,
    ("package", .bare context.package) ∈ e.fields ∧
      ("entity", .quoted (context.entity.getD "")) ∈ e.fields := by
  intro e member
  obtain ⟨text, rfl⟩ := own e member
  simp [Log.Context.warn, Log.Event.fields]

theorem accounted_package (p : RawPackage) :
    ∃ ws, p.Accounted ws ∧ warned p.toPackage.events =
      ws ++ p.types.flatMap fun t => warned (t.toEntity (.ofPackage reporter p.name)).events := by
  have tasks := length_filterMap_kind isSome_task? (p.markers.found .package)
  have workspaces := length_filterMap_kind isSome_workspace? (p.markers.found .package)
  have own : In (.ofPackage reporter p.name)
      ((p.markers.refused .package).map (refusalWarning (.ofPackage reporter p.name)) ++
        List.replicate ((p.markers.kinds .package).count .task - 1)
          ((Log.Context.ofPackage reporter p.name).warn
            "task marker repeated, keeping the first one")) :=
    (in_refusals _ _).append (in_replicate _ _ _)
  refine ⟨_, ⟨rfl, by simp, own.fields, ?_⟩, ?_⟩
  · have head := length_eq_tail_head ((p.markers.found .package).filterMap task?)
    rw [toPackage_value, knownCount_eq .package, length_found_package]
    simp only [List.length_append, List.length_map, List.length_replicate]
    unfold RawMarkers.kinds RawMarkers.found at *
    omega
  · have repeated : (((p.markers.found .package).filterMap task?).tail.map fun _ =>
        (Log.Context.ofPackage reporter p.name).warn
          "task marker repeated, keeping the first one") =
        List.replicate ((p.markers.kinds .package).count .task - 1)
          ((Log.Context.ofPackage reporter p.name).warn
            "task marker repeated, keeping the first one") := by
      rw [List.map_const', List.length_tail, tasks, RawMarkers.kinds]
    rw [← own.warned_eq, ← repeated]
    simp only [RawPackage.toPackage, Logged.events_bind, Logged.events_report, Logged.events_pure,
      decodeValues_events, decodeValues_value, entities_events, warned_append, warned_flatMap,
      List.append_nil, List.append_assoc]
    rfl

theorem accounted_type (package : String) (t : RawType) :
    t.Accounted package (warned (t.toEntity (.ofPackage reporter package)).events) := by
  obtain ⟨ms, found⟩ : ∃ ms : List EntityMarker,
      t.markers.found .type = ms.map EntityMarker.payload :=
    exists_markers_of_values t.markers.all
  have kinds : t.markers.kinds .type = kindsOf ms := by
    rw [RawMarkers.kinds, found, List.map_map]
    rfl
  have markers : (t.markers.found .type).filterMap entityMarker? = ms := by
    rw [found, filterMap_payload]
  have value : (t.toEntity (.ofPackage reporter package)).value =
      (chosen ms).map fun m => ⟨t.name, t.doc, t.shape, m⟩ := by
    rw [toEntity_value, ← RawMarkers.found, markers]
  have refusals := (in_refusals (t.context package) (t.markers.refused .type)).warned_eq
  have events : warned (t.toEntity (.ofPackage reporter package)).events =
      (t.markers.refused .type).map (refusalWarning (t.context package)) ++
        warned (chooseMarker (t.context package) ms).events := by
    simp only [RawType.toEntity, Logged.events_bind, Logged.events_pure, decodeValues_events,
      decodeValues_value, warned_append, List.append_nil]
    rw [← RawMarkers.found, markers, ← RawMarkers.refused, ← RawType.context, refusals]
  rw [warned_chooseMarker, ← kinds, ← found, ← List.append_assoc] at events
  have own := ((in_refusals (t.context package) (t.markers.refused .type)).append
    (in_replicate (t.context package) (repeats (t.markers.kinds .type))
      (keeping (t.markers.found .type)))).append
    (in_conflict (t.context package) (t.markers.kinds .type))
  have length : (warned (t.toEntity (.ofPackage reporter package)).events).length =
      (t.markers.refused .type).length + repeats (t.markers.kinds .type) +
        if Mixed (t.markers.kinds .type) then 1 else 0 := by
    rw [events, List.length_append, List.length_append, List.length_map, List.length_replicate]
    split <;> rfl
  refine ⟨events, length, events ▸ own.fields, ?_, ?_⟩
  · intro mixed
    rw [value, chosen_of_mixed ms (kinds ▸ mixed)]
    rfl
  · intro pure
    have kept := length_of_not_mixed ms (kinds ▸ pure)
    rw [length, if_neg pure, knownCount_eq .type, found, List.length_map, kept, value, kinds]
    cases chosen ms <;> rfl

end Accounts

section Foreign

theorem all_filter (es : Entries) :
    Entries.all (es.filter fun e => isKnown e.1) = es.all.filter fun e => isKnown e.1 := by
  induction es with
  | nil => rfl
  | cons e rest ih =>
    unfold Entries.all at ih ⊢
    rw [List.flatMap_cons, List.filter_append, ← ih]
    cases known : isKnown e.1 <;> simp [known, List.filter_map, Function.comp_def]

theorem all_known (m : RawMarkers) : m.known.all = m.all.filter fun e => isKnown e.1 :=
  all_filter m.entries

theorem decodeValues_known (context : Log.Context) (target : Marker.Target)
    (es : List (String × Json.Value)) :
    decodeValues context target (es.filter fun e => isKnown e.1) =
      decodeValues context target es := by
  induction es with
  | nil => rfl
  | cons e rest ih =>
    obtain ⟨name, value⟩ := e
    cases known : isKnown name with
    | true => simp only [List.filter_cons, known, if_true, decodeValues, ih]
    | false =>
      simp only [List.filter_cons, known, Bool.false_eq_true, if_false, decodeValues, ih,
        Marker.decode_of_not_isKnown known]

theorem toEntity_known (context : Log.Context) (t : RawType) :
    RawType.toEntity context { t with markers := t.markers.known } = t.toEntity context := by
  simp only [RawType.toEntity, all_known, decodeValues_known]

theorem entities_known (context : Log.Context) (ts : List RawType) :
    entities context (ts.map fun t => { t with markers := t.markers.known }) =
      entities context ts := by
  induction ts with
  | nil => rfl
  | cons t rest ih => simp only [List.map_cons, entities, toEntity_known, ih]

theorem toPackage_known (p : RawPackage) : p.known.toPackage = p.toPackage := by
  simp only [RawPackage.toPackage, RawPackage.known, all_known, decodeValues_known, entities_known]

end Foreign

/-- The warnings of a translation are those at the package and then those at its types, in their
order, and they account for each value of a known marker. Values of other tools make no difference
to what is reported, nor to the package. -/
theorem warnings_accounted (p : RawPackage) :
    (∃ own others, warned p.toPackage.events = own ++ others.flatten ∧ p.Accounted own ∧
      List.Forall₂ (RawType.Accounted p.name) p.types others) ∧
    p.known.toPackage = p.toPackage := by
  obtain ⟨own, accounted, events⟩ := accounted_package p
  refine ⟨⟨own, _, events.trans (congrArg (own ++ ·) List.flatMap_def), accounted, ?_⟩,
    toPackage_known p⟩
  rw [List.forall₂_map_right_iff]
  exact List.forall₂_same.mpr fun t _ => accounted_type p.name t

end TaskSynth.Snapshot
