import TaskSynth.Proofs.Binding.Collection
import TaskSynth.Proofs.Manifest.Collection

namespace TaskSynth

namespace Log

/-- The package, kind and name that an event of an entity is about. -/
def Event.subject? : Event → Option (String × Entity.Kind × String)
  | .stage _ c _ => c.kind.map fun kind => (c.package, kind, c.entity.getD "")
  | _ => none

def atLevel (level : Level) (events : List Event) : List Event :=
  events.filter fun e => e.level = level

def announcement (context : Context) (noun : Entity.Kind → String) (e : Entity) (again : Bool) :
    List Event :=
  let own := context.narrow e.kind e.marker.name
  own.info (noun e.kind ++ " found") ::
    if again then [own.warn (noun e.kind ++ " duplicated! ensure unique name")] else []

/-- What is said of entities in their order, given the keys seen before them. -/
def announced (context : Context) (noun : Entity.Kind → String)
    (seen : List (Entity.Kind × String)) : List Entity → List Event
  | [] => []
  | e :: rest =>
    announcement context noun e (e.key ∈ seen) ++
      announced context noun (if e.key ∈ seen then seen else e.key :: seen) rest

end Log

def Entity.IsRepeat (es : List Entity) (x : Entity × Nat) : Prop :=
  ∃ d ∈ es.take x.2, d.key = x.1.key

instance (es : List Entity) : DecidablePred (Entity.IsRepeat es) := fun x =>
  inferInstanceAs (Decidable (∃ d ∈ es.take x.2, d.key = x.1.key))

/-- The entities that stand behind another of their kind and name, in their order. -/
def Entity.repeated (es : List Entity) : List Entity :=
  (es.zipIdx.filter (Entity.IsRepeat es)).map (·.1)

def Package.subject (p : Package) (e : Entity) : String × Entity.Kind × String :=
  (p.name, e.kind, e.marker.name)

/-- One warning for each entity that is repeated and no other, and one note of each entity, in the
order of the entities. -/
structure Reports (p : Package) (events : List Log.Event) : Prop where
  warnings : (Log.atLevel .warn events).map Log.Event.subject? =
    (Entity.repeated p.entities).map fun e => some (p.subject e)
  notes : (Log.atLevel .info events).filterMap Log.Event.subject? = p.entities.map p.subject

namespace Log

section

variable {context : Context} {noun : Entity.Kind → String} {seen : List (Entity.Kind × String)}

theorem atLevel_append (level : Level) (es fs : List Event) :
    atLevel level (es ++ fs) = atLevel level es ++ atLevel level fs :=
  List.filter_append ..

theorem atLevel_flatMap {α : Type} (level : Level) (f : α → List Event) (xs : List α) :
    atLevel level (xs.flatMap f) = xs.flatMap fun x => atLevel level (f x) :=
  List.filter_flatMap ..

theorem announced_eq (front back : List Entity)
    (known : ∀ k, k ∈ seen ↔ ∃ d ∈ front, d.key = k) :
    announced context noun seen back =
      (back.zipIdx front.length).flatMap fun x =>
        announcement context noun x.1 (Entity.IsRepeat (front ++ back) x) := by
  -- An entity moves from the back to the front, and its key to those that are seen.
  induction back generalizing front seen with
  | nil => rfl
  | cons e rest ih =>
    have own : e.key ∈ seen ↔ Entity.IsRepeat (front ++ e :: rest) (e, front.length) := by
      rw [known, Entity.IsRepeat, List.take_left]
    have further : ∀ k, k ∈ (if e.key ∈ seen then seen else e.key :: seen) ↔
        ∃ d ∈ front ++ [e], d.key = k := by
      intro k
      simp only [List.mem_append, List.mem_singleton, or_and_right, exists_or, exists_eq_left,
        ← known]
      split
      · rename_i before
        constructor
        · exact Or.inl
        · rintro (other | rfl)
          · exact other
          · exact before
      · rw [List.mem_cons, or_comm, eq_comm]
    have later := ih (front ++ [e]) further
    rw [List.append_assoc, List.singleton_append, List.length_append, List.length_singleton]
      at later
    rw [announced, later, List.zipIdx_cons, List.flatMap_cons, decide_eq_decide.mpr own]

theorem warnings_announcement (p : Package) (generator : String) (e : Entity) (again : Bool) :
    (atLevel .warn (announcement (.ofPackage generator p.name) noun e again)).map Event.subject? =
      if again then [some (p.subject e)] else [] := by
  cases again <;> rfl

theorem notes_announcement (p : Package) (generator : String) (e : Entity) (again : Bool) :
    (atLevel .info (announcement (.ofPackage generator p.name) noun e again)).filterMap
      Event.subject? = [p.subject e] := by
  cases again <;> rfl

theorem flatMap_singleton_ite {α β : Type} (P : α → Prop) [DecidablePred P] (f : α → β)
    (xs : List α) : xs.flatMap (fun x => if P x then [f x] else []) = (xs.filter P).map f := by
  induction xs with
  | nil => rfl
  | cons x rest ih =>
    rw [List.flatMap_cons, ih]
    by_cases own : P x <;> simp [own]

theorem reports_announced (p : Package) (generator : String) (noun : Entity.Kind → String) :
    Reports p (announced (.ofPackage generator p.name) noun [] p.entities) := by
  have known : ∀ k, k ∈ ([] : List (Entity.Kind × String)) ↔
      ∃ d ∈ ([] : List Entity), d.key = k := by simp
  rw [announced_eq [] p.entities known, List.nil_append, List.length_nil]
  constructor
  · rw [atLevel_flatMap, List.map_flatMap]
    simp only [warnings_announcement, decide_eq_true_eq]
    rw [flatMap_singleton_ite, Entity.repeated, List.map_map]
    rfl
  · rw [atLevel_flatMap, List.filterMap_flatMap]
    simp only [notes_announcement]
    rw [← List.map_eq_flatMap]
    conv_rhs => rw [← List.zipIdx_map_fst 0 p.entities, List.map_map]
    rfl

end

end Log

section

variable {p : Package} {c : Manifest.Command} {m : Manifest}

theorem Manifest.collect_events {context : Log.Context} {seen : List (Entity.Kind × String)}
    {parts collected : Manifest.Parts} {es : List Entity}
    (done : (Manifest.collect context seen parts es).value = .ok collected) :
    (Manifest.collect context seen parts es).events = Log.announced context noun seen es := by
  induction es generalizing seen parts with
  | nil => rfl
  | cons e rest ih =>
    by_cases again : e.key ∈ seen
    · simp only [collect, if_pos again, Logged.value_bind] at done
      simp only [collect, Log.announced, if_pos again, Logged.events_bind, Logged.events_report,
        ih done]
      simp [Log.announcement, again]
    · simp only [collect, if_neg again, Logged.value_bind] at done
      -- The first entity without a schema would end the loop before the rest is announced.
      cases own : parts.add e with
      | error err => simp [own] at done
      | ok added =>
        rw [own] at done
        simp only [collect, Log.announced, if_neg again, Logged.events_bind, Logged.events_report,
          own, ih done]
        simp [Log.announcement, again]

theorem Binding.Index.collect_events (context : Log.Context) (seen : List (Entity.Kind × String))
    (i : Index) (es : List Entity) :
    (collect context seen i es).events = Log.announced context Entity.Kind.name seen es := by
  induction es generalizing seen i with
  | nil => rfl
  | cons e rest ih =>
    by_cases again : e.key ∈ seen
    · simp only [collect, Log.announced, if_pos again, Logged.events_bind, Logged.events_report, ih]
      simp [Log.announcement, again]
    · simp only [collect, Log.announced, if_neg again, Logged.events_bind, Logged.events_report, ih]
      simp [Log.announcement, again]

theorem Reports.within {events : List Log.Event} (own : Reports p events)
    (front back : List Log.Event)
    (quiet : ∀ e ∈ front ++ back, e.level ≠ .warn ∧ e.subject? = none) :
    Reports p (front ++ events ++ back) := by
  have silent : ∀ es : List Log.Event, (∀ e ∈ es, e.level ≠ .warn ∧ e.subject? = none) →
      Log.atLevel .warn es = [] ∧ (Log.atLevel .info es).filterMap Log.Event.subject? = [] := by
    intro es each
    refine ⟨List.filter_eq_nil_iff.mpr fun e member => ?_,
      List.filterMap_eq_nil_iff.mpr fun e member => (each e (List.mem_of_mem_filter member)).2⟩
    rw [decide_eq_true_eq]
    exact (each e member).1
  obtain ⟨before, after⟩ := List.forall_mem_append.mp quiet
  constructor
  · simp only [Log.atLevel_append, silent front before, silent back after, List.nil_append,
      List.append_nil, own.warnings]
  · simp only [Log.atLevel_append, List.filterMap_append, silent front before, silent back after,
      List.nil_append, List.append_nil, own.notes]

theorem Manifest.reports_build (built : (Manifest.build p c).value = .ok (some m)) :
    Reports p (Manifest.build p c).events := by
  obtain ⟨t, params, command, task, schemas, rendered, -⟩ := (build_eq_some_iff p c m).mp built
  obtain ⟨parts, collected⟩ : ∃ parts, (collect (.ofPackage generator p.name) [] .empty
      p.entities).value = .ok parts := by
    rw [collect_value, foldlM_add, Outcome.mapM_eq_ok_iff.mpr schemas]
    exact ⟨_, rfl⟩
  have around := (Log.reports_announced p generator noun).within
    ((Log.Context.ofPackage generator p.name).debug "starting collecting" ::
      p.workspaces.map fun w =>
        (Log.Context.ofPackage generator p.name).info ("found workspace '" ++ w.name ++ "'"))
    [(Log.Context.ofPackage generator p.name).debug (assembled t parts p.workspaces)]
    (by
      simp only [List.cons_append, List.mem_cons, List.mem_append, List.mem_map,
        List.not_mem_nil, or_false]
      rintro _ (rfl | ⟨w, -, rfl⟩ | rfl) <;> exact ⟨nofun, rfl⟩)
  rw [← collect_events collected] at around
  simpa [build, task, ofTask, collected, rendered] using around

theorem Binding.reports_synthesize {t : Marker.Task} (task : p.task = some t)
    (header : Binding.LicenseHeader) : Reports p (Binding.synthesize p header).events := by
  have own := Log.reports_announced p Binding.generator Entity.Kind.name
  have around := own.within
    [(Log.Context.ofPackage Binding.generator p.name).debug "starting collecting"] []
    (by simp [Log.Context.debug, Log.Context.ofPackage, Log.Event.level, Log.Event.subject?])
  rw [← Binding.Index.collect_events _ _ .empty] at around
  simpa [Binding.synthesize, task, Binding.Index.ofPackage] using around

/-- Where a package has a manifest, building it and synthesizing its bindings report the same of its
entities: both warn of exactly those that are repeated, in one order, and both note every one. -/
theorem repeats_reported_alike (built : (Manifest.build p c).value = .ok (some m))
    (header : Binding.LicenseHeader) :
    Reports p (Manifest.build p c).events ∧ Reports p (Binding.synthesize p header).events ∧
      (Log.atLevel .warn (Manifest.build p c).events).map Log.Event.subject? =
        (Log.atLevel .warn (Binding.synthesize p header).events).map Log.Event.subject? := by
  obtain ⟨t, -, -, task, -⟩ := (Manifest.build_eq_some_iff p c m).mp built
  have ofManifest := Manifest.reports_build built
  have ofBindings := Binding.reports_synthesize task header
  exact ⟨ofManifest, ofBindings, ofManifest.warnings.trans ofBindings.warnings.symm⟩

end

/-- Params and results that repeat their names in turn; a result may have the name of a param. The
first repeat could not have been kept, and still it is reported and the manifest is built. -/
theorem repeats_reported_alike_in_turn :
    let param (name : String) (shape : Shape) : Entity :=
      ⟨"Type", "", shape, .param ⟨name, some "none", true⟩⟩
    let result (name : String) : Entity := ⟨"Type", "", .map, .result ⟨name⟩⟩
    let p : Package := ⟨"main", "acme/main", "", [], some ⟨"greet", "0.1"⟩,
      [⟨"cache", "", none, false, false⟩],
      [param "a" (.scalar true), result "a", param "a" .array, param "b" (.scalar true),
        result "a", param "a" (.scalar true)]⟩
    let c : Manifest.Command := ⟨fun _ _ => .ok "run"⟩
    let repeats := [some ("main", .param, "a"), some ("main", .result, "a"),
      some ("main", .param, "a")]
    (∃ m, (Manifest.build p c).value = .ok (some m)) ∧
      (Log.atLevel .warn (Manifest.build p c).events).map Log.Event.subject? = repeats ∧
      (Log.atLevel .warn (Binding.synthesize p .none).events).map Log.Event.subject? = repeats ∧
      (Log.atLevel .info (Binding.synthesize p .none).events).filterMap Log.Event.subject? =
        p.entities.map p.subject := by
  intro param result p c repeats
  have built : ∃ m, (Manifest.build p c).value = .ok (some m) :=
    ⟨_, (Manifest.build_eq_some_iff p c _).mpr
      ⟨_, _, _, rfl, .cons rfl (.cons rfl .nil), rfl, rfl⟩⟩
  obtain ⟨m, built⟩ := built
  obtain ⟨ofManifest, ofBindings, alike⟩ := repeats_reported_alike built .none
  have warned := ofManifest.warnings.trans
    (show (Entity.repeated p.entities).map (fun e => some (p.subject e)) = repeats by decide)
  exact ⟨⟨m, built⟩, warned, alike.symm.trans warned, ofBindings.notes⟩

end TaskSynth
