import TaskSynth.Proofs.Output.Document
import TaskSynth.Proofs.Output.Generation

namespace TaskSynth.Manifest

/-- A command whose text hangs on the package alone. -/
def Command.Steady (c : Command) : Prop := ∀ earlier, c.rendered earlier = c.rendered 0

theorem Command.rendered_foldl_after (c : Command) (packages : List Package) (earlier : Nat) :
    (packages.foldl Command.after c).rendered earlier =
      c.rendered (earlier + packages.countP (·.task.isSome)) := by
  induction packages generalizing c with
  | nil => rfl
  | cons p rest ih =>
    rw [List.foldl_cons, ih, List.countP_cons, Command.after]
    by_cases task : p.task.isSome
    · rw [if_pos task, if_pos task]
      rfl
    · rw [if_neg task, if_neg task]
      rfl

theorem Command.Steady.foldl_after {c : Command} (steady : c.Steady) (packages : List Package) :
    packages.foldl Command.after c = c := by
  have same (earlier : Nat) :
      (packages.foldl Command.after c).rendered earlier = c.rendered earlier :=
    (c.rendered_foldl_after packages earlier).trans ((steady _).trans (steady earlier).symm)
  exact congrArg Command.mk (funext same)

end TaskSynth.Manifest

namespace TaskSynth.Output

open Outcome

/-- On two lists of packages, one after the other, a generator fails as it does on the first, or
else as it does on the second, for which it is what the first has left of it. -/
structure Generator.PassesErrors (g later : Generator) (front back : List Package) : Prop where
  first : ∀ e, (g.generate front).value = .error e →
    (g.generate (front ++ back)).value = .error e
  second : ∀ made e, (g.generate front).value = .ok made →
    (later.generate back).value = .error e → (g.generate (front ++ back)).value = .error e

/-- Unless it fails, it makes the artifacts of the first list and then those of the second. -/
structure Generator.Concatenates (g later : Generator) (front back : List Package) : Prop
    extends g.PassesErrors later front back where
  both : ∀ made more, (g.generate front).value = .ok made →
    (later.generate back).value = .ok more → (g.generate (front ++ back)).value = .ok (made ++ more)

/-- Packages have manifests in these files, which the kustomization lists unless it is skipped. -/
structure Manifested (c : Manifest.Command) (packages : List Package) (artifacts : List Artifact)
    (files : List String) : Prop where
  skipped : ((Generator.manifests c true).generate packages).value = .ok artifacts
  listed : ∃ listing, Lists files listing ∧
    ((Generator.manifests c false).generate packages).value = .ok (artifacts ++ listing)
  named : files = (taskNames packages).map (· ++ "-task.yaml")
  paths : artifacts.map (·.path) = files.map (FileTree.join "base")

inductive Sheds : List Package → List Package → Prop where
  | nil : Sheds [] []
  | keep {p : Package} {ps qs : List Package} (rest : Sheds ps qs) : Sheds (p :: ps) (p :: qs)
  | drop {p : Package} {ps qs : List Package} (idle : p.task = none) (rest : Sheds ps qs) :
      Sheds (p :: ps) qs

section

variable {c : Manifest.Command} {front back : List Package}

theorem turns_append (c : Manifest.Command) (front back : List Package) :
    turns c (front ++ back) =
      turns c front ++ turns (front.foldl Manifest.Command.after c) back := by
  induction front generalizing c with
  | nil => rfl
  | cons p rest ih => rw [List.cons_append, turns, turns, ih, List.cons_append, List.foldl_cons]

theorem buildAll_append (c : Manifest.Command) (front back : List Package) :
    (buildAll c (front ++ back)).value =
      (buildAll c front).value >>= fun ms =>
        (buildAll (front.foldl Manifest.Command.after c) back).value >>= fun ns =>
          .ok (ms ++ ns) := by
  simp only [buildAll_value, turns_append, List.mapM_append]
  cases (turns c front).mapM fun x => (Manifest.build x.1 x.2).value with
  | error e => rfl
  | ok ms =>
    cases (turns (front.foldl Manifest.Command.after c) back).mapM
        fun x => (Manifest.build x.1 x.2).value with
    | error e => rfl
    | ok ns => exact congrArg Except.ok List.filterMap_append

theorem generate_manifests (c : Manifest.Command) (skip : Bool) (packages : List Package) :
    ((Generator.manifests c skip).generate packages).value =
      (buildAll c packages).value.map (manifestArtifacts skip) := rfl

theorem manifestArtifacts_skipped (ms : List Manifest) :
    manifestArtifacts true ms = ms.map manifestArtifact := by
  simp [manifestArtifacts]

theorem manifestArtifacts_listed (ms : List Manifest) :
    manifestArtifacts false ms =
      ms.map manifestArtifact ++ if ms.isEmpty then [] else [kustomizationArtifact ms] := by
  simp [manifestArtifacts]

theorem manifested_of_buildAll {packages : List Package} {ms : List Manifest}
    (built : (buildAll c packages).value = .ok ms) :
    Manifested c packages (ms.map manifestArtifact) (ms.map Manifest.fileName) := by
  refine ⟨?_, ⟨_, lists_of_manifests ms, ?_⟩, ?_, ?_⟩
  · rw [generate_manifests, built, map_ok, manifestArtifacts_skipped]
  · rw [generate_manifests, built, map_ok, manifestArtifacts_listed]
  · rw [← names_of_buildAll built, List.map_map]
    rfl
  · simp [manifestArtifact, Artifact.rooted, baseDir]

theorem passesErrors_manifests (c : Manifest.Command) (skip : Bool) (front back : List Package) :
    (Generator.manifests c skip).PassesErrors
      (.manifests (front.foldl Manifest.Command.after c) skip) front back := by
  constructor
  · intro e failed
    rw [generate_manifests, map_eq_error_iff] at failed ⊢
    rw [buildAll_append, failed, bind_error]
  · intro made e generated failed
    rw [generate_manifests] at generated
    rw [generate_manifests, map_eq_error_iff] at failed ⊢
    obtain ⟨ms, built, -⟩ := map_eq_ok_iff.mp generated
    rw [buildAll_append, built, bind_ok, failed, bind_error]

theorem concatenates_manifests (c : Manifest.Command) (front back : List Package) :
    (Generator.manifests c true).Concatenates
      (.manifests (front.foldl Manifest.Command.after c) true) front back := by
  refine ⟨passesErrors_manifests c true front back, fun made more generated further => ?_⟩
  rw [generate_manifests] at generated further ⊢
  obtain ⟨ms, built, rfl⟩ := map_eq_ok_iff.mp generated
  obtain ⟨ns, others, rfl⟩ := map_eq_ok_iff.mp further
  rw [buildAll_append, built, bind_ok, others, bind_ok, map_ok, manifestArtifacts_skipped,
    manifestArtifacts_skipped, manifestArtifacts_skipped, List.map_append]

theorem manifested_append {made more : List Artifact}
    (generated : ((Generator.manifests c true).generate front).value = .ok made)
    (further : ((Generator.manifests (front.foldl Manifest.Command.after c) true).generate
      back).value = .ok more) :
    ∃ files others, Manifested c front made files ∧
      Manifested (front.foldl Manifest.Command.after c) back more others ∧
      Manifested c (front ++ back) (made ++ more) (files ++ others) := by
  rw [generate_manifests] at generated further
  obtain ⟨ms, built, rfl⟩ := map_eq_ok_iff.mp generated
  obtain ⟨ns, others, rfl⟩ := map_eq_ok_iff.mp further
  have whole : (buildAll c (front ++ back)).value = .ok (ms ++ ns) := by
    rw [buildAll_append, built, bind_ok, others, bind_ok]
  have manifested := manifested_of_buildAll whole
  rw [List.map_append, List.map_append] at manifested
  rw [manifestArtifacts_skipped, manifestArtifacts_skipped]
  exact ⟨_, _, manifested_of_buildAll built, manifested_of_buildAll others, manifested⟩

theorem concatenates_bindings (header : Binding.LicenseHeader) (front back : List Package) :
    (Generator.bindings header).Concatenates (.bindings header) front back := by
  refine ⟨⟨fun e failed => ?_, fun made e _ failed => ?_⟩, fun made more generated further => ?_⟩
  · cases failed
  · cases failed
  · cases generated
    cases further
    exact congrArg Except.ok (by simp only [bindAll_value, List.filterMap_append])

theorem build_of_idle {p : Package} (idle : p.task = none) (c : Manifest.Command) :
    (Manifest.build p c).value = .ok none := by
  rw [Manifest.build_value, idle]

theorem buildAll_of_sheds {ps qs : List Package} (sheds : Sheds ps qs) (c : Manifest.Command) :
    (buildAll c ps).value = (buildAll c qs).value := by
  induction sheds generalizing c with
  | nil => rfl
  | @keep p ps qs _ ih =>
    simp only [buildAll, Logged.value_bind]
    cases (Manifest.build p c).value with
    | error e => rfl
    | ok m => simp only [Logged.value_bind, ih]
  | @drop p ps qs idle _ ih =>
    have same : c.after p = c := by
      rw [Manifest.Command.after, idle]
      rfl
    simp only [buildAll, Logged.value_bind, build_of_idle idle, Logged.value_pure, same, ih]
    cases (buildAll c qs).value <;> rfl

theorem synthesize_of_idle {p : Package} (idle : p.task = none) (header : Binding.LicenseHeader) :
    (Binding.synthesize p header).value = none := by
  rw [Binding.synthesize_value, idle, Option.map_none]

theorem bindAll_of_sheds {ps qs : List Package} (sheds : Sheds ps qs)
    (header : Binding.LicenseHeader) : (bindAll header ps).value = (bindAll header qs).value := by
  simp only [bindAll_value]
  induction sheds with
  | nil => rfl
  | keep _ ih => simp only [List.filterMap_cons, ih]
  | drop idle _ ih =>
    simp only [List.filterMap_cons, synthesize_of_idle idle, Option.map_none, ih]

theorem generate_of_sheds {ps qs : List Package} (sheds : Sheds ps qs) (g : Generator) :
    (g.generate ps).value = (g.generate qs).value := by
  cases g with
  | manifests c skip => rw [generate_manifests, generate_manifests, buildAll_of_sheds sheds]
  | bindings header => exact congrArg Except.ok (bindAll_of_sheds sheds header)
  | support name header => rfl

end

/-- Two lists of packages are worked on apart from each other, with one kustomization for both; and
packages that are no tasks can be left out. For the second list the command is as the first has left
it, rendered once for each task; it is as it was unless its text hangs on more than the package. -/
theorem generate_append (front back : List Package) :
    (∀ c, let later := front.foldl Manifest.Command.after c
      (∀ earlier, later.rendered earlier =
        c.rendered (earlier + front.countP (·.task.isSome))) ∧
      (c.Steady → later = c) ∧
      (Generator.manifests c true).Concatenates (.manifests later true) front back ∧
      (Generator.manifests c false).PassesErrors (.manifests later false) front back ∧
      ∀ made more, ((Generator.manifests c true).generate front).value = .ok made →
        ((Generator.manifests later true).generate back).value = .ok more →
        ∃ files others, Manifested c front made files ∧ Manifested later back more others ∧
          Manifested c (front ++ back) (made ++ more) (files ++ others)) ∧
    (∀ header, (Generator.bindings header).Concatenates (.bindings header) front back ∧
      ∃ made, ((Generator.bindings header).generate front).value = .ok made) ∧
    (∀ kept, Sheds front kept → ∀ g : Generator,
      (g.generate front).value = (g.generate kept).value) ∧
    ∀ name header, (Generator.support name header).generate front =
      (Generator.support name header).generate back := by
  refine ⟨fun c => ?_, fun header => ⟨concatenates_bindings header front back, _, rfl⟩, ?_, ?_⟩
  · intro later
    refine ⟨c.rendered_foldl_after front, fun steady => steady.foldl_after front,
      concatenates_manifests c front back, passesErrors_manifests c false front back, ?_⟩
    intro made more generated further
    exact manifested_append generated further
  · intro kept sheds g
    exact generate_of_sheds sheds g
  · intro name header
    rfl

/-- A task, a package that is none and has an entity without a schema, and a task that fails for
this entity. -/
theorem generate_append_failing :
    let entity : Entity := ⟨"All", "", .array, .param ⟨"all", some "none", false⟩⟩
    let task (name : String) (entities : List Entity) : Package :=
      ⟨"main", "acme/" ++ name, name, [], some ⟨name, "0.1"⟩, [], entities⟩
    let idle : Package := ⟨"lib", "acme/lib", "lib", [], none, [], [entity]⟩
    let c : Manifest.Command := ⟨fun _ _ => .ok "run"⟩
    let g : Generator := .manifests c true
    let front := [task "greet" [], idle]
    c.Steady ∧
    (∃ made more files others, Manifested c front made files ∧
      Manifested c [task "part" []] more others ∧
      Manifested c (front ++ [task "part" []]) (made ++ more) (files ++ others)) ∧
    (∃ e, (g.generate [task "late" [entity]]).value = .error e ∧
      (g.generate (front ++ [task "late" [entity]])).value = .error e ∧
      (g.generate ([task "late" [entity]] ++ front)).value = .error e) ∧
    (g.generate front).value = (g.generate [task "greet" []]).value := by
  intro entity task idle c g front
  have steady : c.Steady := fun _ => rfl
  obtain ⟨made, generated⟩ : ∃ made, (g.generate front).value = .ok made :=
    exists_of_isOk (by decide +kernel)
  obtain ⟨more, further⟩ : ∃ more, (g.generate [task "part" []]).value = .ok more :=
    exists_of_isOk (by decide +kernel)
  obtain ⟨e, failed⟩ : ∃ e, (g.generate [task "late" [entity]]).value = .error e := ⟨_, rfl⟩
  have fine := generate_append front [task "part" []]
  have late := generate_append front [task "late" [entity]]
  have early := generate_append [task "late" [entity]] front
  refine ⟨steady, ?_, ⟨e, failed, (late.1 c).2.2.1.second made e generated failed,
    (early.1 c).2.2.1.first e failed⟩, fine.2.2.1 _ (.keep (.drop rfl .nil)) g⟩
  obtain ⟨files, others, own, next, both⟩ := (fine.1 c).2.2.2.2 made more generated further
  exact ⟨made, more, files, others, own, next, both⟩

end TaskSynth.Output
