import TaskSynth.Cli.Command
import TaskSynth.Proofs.Output.Generation
import TaskSynth.Proofs.Output.Printing

/-! Dry runs. They have the jobs of a real run, each with standard output in the place of its files,
so what they print is what the real run would write. No output directory is asked for. -/
namespace TaskSynth.Cli

open FileTree Output TaskSynth.Outcome

def Setting.dry (s : Setting) : Setting := { s with dryRun := true }

def Setting.real (s : Setting) : Setting := { s with dryRun := false }

/-- The texts of a product in their order: the manifests of the tasks and then the list of these
manifests, or the bindings of the tasks and then what bindings rely on. -/
inductive Texts (engine : Manifest.Engine) (files : Files) (s : Setting) (today : String)
    (ps : List Package) : Product → List String → Prop where
  | manifests {outputDir template : Option String} {skip : Bool} {c : Manifest.Command}
      {built : List (Option Manifest)} :
      engine.parse ((template.or s.config.stepCommand).getD Manifest.defaultCommand) = .ok c →
      List.Forall₂ (fun x m => (Manifest.build x.1 x.2).value = .ok m) (turns c ps) built →
      Texts engine files s today ps (.manifests outputDir template skip)
        ((built.filterMap id).map (fun m => yamlFile m.document) ++
          if (skip || s.config.skipKustomization) || (built.filterMap id).isEmpty then []
          else [yamlFile (Manifest.kustomization ((built.filterMap id).map Manifest.fileName))])
  | bindings {dir packageName headerFile year : Option String} {h : Binding.LicenseHeader}
      {result parameter : String} :
      header files s headerFile year today = .ok h →
      (Binding.supportFiles (supportPackage s packageName) h).value =
        [⟨Binding.resultFile, result⟩, ⟨Binding.parameterFile, parameter⟩] →
      Texts engine files s today ps (.bindings dir packageName headerFile year)
        (ps.filterMap (fun p => (Binding.synthesize p h).value) ++ [result, parameter])

section

variable {engine : Manifest.Engine} {files : Files} {s : Setting} {today : String} {p : Product}
  {js : List Job} {w : World}
  {ps : List Package} {rs : List Run.Rendered}

theorem manifestJobs_eq_ok_iff {outputDir template : Option String} {skip : Bool} :
    manifestJobs engine s outputDir template skip = .ok js ↔
      ∃ rule c, manifestRule s outputDir = .ok rule ∧
        engine.parse ((template.or s.config.stepCommand).getD Manifest.defaultCommand) = .ok c ∧
        js = [⟨.manifests c (skip || s.config.skipKustomization), rule⟩] := by
  simp only [manifestJobs, bind_eq_ok_iff]
  cases engine.parse ((template.or s.config.stepCommand).getD Manifest.defaultCommand) with
  | error e => simp
  | ok c => simp [eq_comm]

theorem bindingJobs_eq_ok_iff {dir packageName headerFile year : Option String} :
    jobs engine files s today (.bindings dir packageName headerFile year) = .ok js ↔
      ∃ h, header files s headerFile year today = .ok h ∧ js = bindingJobs s dir packageName h := by
  simp only [jobs, bind_eq_ok_iff, Except.ok.injEq]
  simp only [eq_comm]

theorem filed_of_jobs_real (planned : jobs engine files s.real today p = .ok js) :
    ∀ j ∈ js, j.rule ≠ .stdout := by
  cases p with
  | manifests outputDir template skip =>
    obtain ⟨rule, c, filed, _, rfl⟩ := manifestJobs_eq_ok_iff.mp planned
    have named : rule ≠ .stdout := by
      simp only [manifestRule, Setting.real, Bool.false_eq_true, if_false] at filed
      split at filed
      · cases filed
        exact Rule.noConfusion
      · cases filed
    simpa using named
  | bindings dir packageName headerFile year =>
    obtain ⟨h, _, rfl⟩ := bindingJobs_eq_ok_iff.mp planned
    simp [bindingJobs, bindingRules, Setting.real]

theorem stdout_of_jobs_dry (planned : jobs engine files s.dry today p = .ok js) :
    ∀ j ∈ js, j.rule = .stdout := by
  cases p with
  | manifests outputDir template skip =>
    obtain ⟨rule, c, printed, _, rfl⟩ := manifestJobs_eq_ok_iff.mp planned
    have named : rule = .stdout := by
      simpa [manifestRule, Setting.dry] using printed.symm
    simpa using named
  | bindings dir packageName headerFile year =>
    obtain ⟨h, _, rfl⟩ := bindingJobs_eq_ok_iff.mp planned
    simp [bindingJobs, bindingRules, Setting.dry]

theorem jobs_dry_of_real (planned : jobs engine files s.real today p = .ok js) :
    jobs engine files s.dry today p = .ok (js.map Job.printing) := by
  cases p with
  | manifests outputDir template skip =>
    obtain ⟨rule, c, _, parsed, rfl⟩ := manifestJobs_eq_ok_iff.mp planned
    exact manifestJobs_eq_ok_iff.mpr ⟨.stdout, c, rfl, parsed, rfl⟩
  | bindings dir packageName headerFile year =>
    obtain ⟨h, read, rfl⟩ := bindingJobs_eq_ok_iff.mp planned
    exact bindingJobs_eq_ok_iff.mpr ⟨h, read, rfl⟩

theorem contents_manifestArtifacts (skip : Bool) (ms : List Manifest) :
    (manifestArtifacts skip ms).map (·.content) =
      ms.map (fun m => yamlFile m.document) ++
        if skip || ms.isEmpty then []
        else [yamlFile (Manifest.kustomization (ms.map Manifest.fileName))] := by
  rw [manifestArtifacts, List.map_append, List.map_map]
  split <;> rfl

theorem contents_bindAll (h : Binding.LicenseHeader) (ps : List Package) :
    (bindAll h ps).value.map (·.content) =
      ps.filterMap fun p => (Binding.synthesize p h).value := by
  rw [bindAll_value, List.map_filterMap]
  apply List.filterMap_congr
  intro p _
  rw [Option.map_map]
  exact Option.map_id'

theorem texts_of_jobs (planned : jobs engine files s.real today p = .ok js)
    (related : List.Forall₂ (Job.Renders ps) js rs) :
    Texts engine files s today ps p ((rs.flatMap (·.artifacts)).map (·.content)) := by
  cases p with
  | manifests outputDir template skip =>
    obtain ⟨rule, c, _, parsed, rfl⟩ := manifestJobs_eq_ok_iff.mp planned
    obtain ⟨r, _, renders, none, rfl⟩ := List.forall₂_cons_left_iff.mp related
    cases none
    obtain ⟨ms, found, artifacts⟩ := map_eq_ok_iff.mp renders.artifacts
    obtain ⟨built, own, rfl⟩ := buildAll_eq_ok_iff.mp found
    rw [List.flatMap_singleton, ← artifacts, contents_manifestArtifacts]
    exact .manifests parsed own
  | bindings dir packageName headerFile year =>
    obtain ⟨h, read, rfl⟩ := bindingJobs_eq_ok_iff.mp planned
    obtain ⟨r, _, bindings, others, rfl⟩ := List.forall₂_cons_left_iff.mp related
    obtain ⟨t, _, support, none, rfl⟩ := List.forall₂_cons_left_iff.mp others
    cases none
    have first : r.artifacts = (bindAll h ps).value := (Except.ok.inj bindings.artifacts).symm
    have second : t.artifacts = (supportArtifacts (supportPackage s packageName) h).value :=
      (Except.ok.inj support.artifacts).symm
    rw [List.flatMap_cons, List.flatMap_singleton, first, second, List.map_append,
      contents_bindAll]
    exact .bindings read rfl

theorem runJobs_dry_of_ok {summary : Run.Summary}
    (done : (Output.run ps js w).2.value = .ok summary) :
    (runJobs s.dry ps js w).failure = none ∧
      (runJobs s.dry ps js w).world = (Output.run ps js w).1 := by
  simp only [runJobs, done, Setting.dry, if_true, and_self]

theorem runJobs_real_of_ok {summary : Run.Summary}
    (done : (Output.run ps js w).2.value = .ok summary) :
    (runJobs s.real ps js w).world = printLines (Output.run ps js w).1 (report summary) := by
  simp only [runJobs, done, Setting.real, Bool.false_eq_true, if_false]

theorem generate_of_jobs {loaded : Logged (List Package)}
    (read : packages (.ofTree w.files) s = .ok loaded)
    (planned : jobs engine (.ofTree w.files) s today p = .ok js) :
    (generate engine s today p w).failure = (runJobs s loaded.value js w).failure ∧
      (generate engine s today p w).world = (runJobs s loaded.value js w).world := by
  constructor <;> simp only [generate, plan, read, planned, map_ok]

theorem generate_cases (engine : Manifest.Engine) (s : Setting) (today : String) (p : Product)
    (w : World) :
    (∃ loaded js, packages (.ofTree w.files) s = .ok loaded ∧
      jobs engine (.ofTree w.files) s today p = .ok js) ∨
    (∃ e, (generate engine s today p w).failure = some e) ∧
      (generate engine s today p w).world = w := by
  cases read : packages (.ofTree w.files) s with
  | error e =>
    refine Or.inr ⟨⟨e, ?_⟩, ?_⟩ <;> simp only [generate, plan, read]
  | ok loaded =>
    cases planned : jobs engine (.ofTree w.files) s today p with
    | error e =>
      refine Or.inr ⟨⟨e, ?_⟩, ?_⟩ <;> simp only [generate, plan, read, planned, map_error]
    | ok js => exact Or.inl ⟨loaded, js, rfl, rfl⟩

theorem files_generate_dry (engine : Manifest.Engine) (s : Setting) (today : String) (p : Product)
    (w : World) :
    (generate engine s.dry today p w).world.files = w.files := by
  rcases generate_cases engine s.dry today p w with ⟨loaded, js, read, planned⟩ | ⟨_, same⟩
  · have kept : (Output.run loaded.value js w).1.files = w.files :=
      files_run_of_stdout (stdout_of_jobs_dry planned) w
    rw [(generate_of_jobs read planned).2]
    unfold runJobs
    cases outcome : (Output.run loaded.value js w).2.value with
    | error e => simp only [outcome, kept]
    | ok summary => simp only [outcome, Setting.dry, if_true, kept]
  · rw [same]

/-- A real run that succeeds has read its packages, found its jobs, run them, and told of it. -/
theorem run_of_generate_real (done : (generate engine s.real today p w).failure = none) :
    ∃ loaded js summary,
      packages (.ofTree w.files) s = .ok loaded ∧
      jobs engine (.ofTree w.files) s.real today p = .ok js ∧
      (Output.run loaded.value js w).2.value = .ok summary ∧
      (generate engine s.real today p w).world =
        printLines (Output.run loaded.value js w).1 (report summary) := by
  rcases generate_cases engine s.real today p w with ⟨loaded, js, read, planned⟩ | ⟨⟨e, failed⟩, _⟩
  · obtain ⟨failure, world⟩ := generate_of_jobs read planned
    rw [failure] at done
    cases outcome : (Output.run loaded.value js w).2.value with
    | error e => simp only [runJobs, outcome] at done; cases done
    | ok summary =>
      refine ⟨loaded, js, summary, read, planned, outcome, ?_⟩
      rw [world, runJobs_real_of_ok outcome]
  · rw [failed] at done
    cases done

/-- A dry run changes no file or directory, whatever comes of it. If the real run succeeds, so does
the dry run, and it prints the contents of the files that the real run writes, one after another,
and nothing else. Each of these files reads afterwards as what was written to its place last. Both
runs have one engine, so what it tells a template of time and chance is the same in both. -/
theorem dry_run_prints_what_is_written (engine : Manifest.Engine) (s : Setting) (today : String)
    (p : Product) (w : World) (console : Console) :
    let dry := generate engine s.dry today p ⟨w.files, console⟩
    let real := generate engine s.real today p w
    dry.world.files = w.files ∧
      (real.failure = none → console.room = none →
        ∃ loaded written,
          packages (.ofTree w.files) s = .ok loaded ∧
          Texts engine (.ofTree w.files) s today loaded.value p (written.map (·.2)) ∧
          Writes w.files written real.world.files ∧
          (∀ x ∈ written, ∃ text,
            LastAt w.files.current written (place w.files.current x.1) text ∧
              real.world.files.read x.1 = .ok text) ∧
          real.world = printLines ⟨real.world.files, w.console⟩ (report ⟨written.map (·.1), 0⟩) ∧
          dry.failure = none ∧
          dry.world.console =
            { console with printed := console.printed ++ String.join (written.map (·.2)) }) := by
  intro dry real
  refine ⟨files_generate_dry engine s today p ⟨w.files, console⟩, ?_⟩
  intro done unlimited
  obtain ⟨loaded, js, summary, read, planned, outcome, world⟩ := run_of_generate_real done
  have filed := filed_of_jobs_real planned
  obtain ⟨writes, paths⟩ := writes_of_run outcome
  obtain ⟨rs, rendered⟩ := rendered_of_run outcome
  have related := Run.renderAll_eq_ok_iff.mp rendered
  obtain ⟨shown, t, printed⟩ := run_printing (v := ⟨w.files, console⟩) outcome filed unlimited
  obtain ⟨failure, dryWorld⟩ :=
    generate_of_jobs (w := ⟨w.files, console⟩) (s := s.dry) read (jobs_dry_of_real planned)
  obtain ⟨fine, same⟩ := runJobs_dry_of_ok (s := s) printed
  have tree : real.world.files = (Output.run loaded.value js w).1.files := by
    simp only [real, world, printLines]
  refine ⟨loaded, js.flatMap (Job.files loaded.value), read, ?_, tree ▸ writes, ?_, ?_, ?_, ?_⟩
  · rw [contents_of_jobs related filed]
    exact texts_of_jobs planned related
  · intro x member
    rw [tree]
    exact writes.read member
  · have kept : (Output.run loaded.value js w).1.console = w.console :=
      console_run_of_filed filed w
    simp only [real, world, printLines, report, ← paths, kept]
  · exact failure.trans fine
  · have whole := (dryWorld.trans same).trans shown
    simp only [dry, whole, World.show]

end

/-- The bindings of one task, from a snapshot in the working directory. -/
theorem dry_run_prints_what_is_written_bindings :
    let snapshot := "packages:\n- name: main\n  import_path: acme/main\n  dir: src\n" ++
      "  markers:\n    tektasker:task:\n    - name: greet\n      version: v1\n"
    let engine : Manifest.Engine := ⟨fun _ => .ok ⟨fun _ _ => .ok "run"⟩⟩
    let s : Setting := ⟨false, ["main.yaml"], .empty⟩
    let p : Product := .bindings none none none none
    let console := Console.empty none
    let w : World := ⟨.ofEntries ["work"] [(["work"], .directory),
      (["main.yaml", "work"], .file (.text snapshot))], console⟩
    (generate engine s.real "2024" p w).failure = none ∧
      (generate engine s.dry "2024" p ⟨w.files, console⟩).failure = none ∧
      (generate engine s.dry "2024" p ⟨w.files, console⟩).world.files = w.files ∧
      ∃ written, Writes w.files written (generate engine s.real "2024" p w).world.files ∧
        (∀ x ∈ written, ∃ text,
          LastAt w.files.current written (place w.files.current x.1) text ∧
            (generate engine s.real "2024" p w).world.files.read x.1 = .ok text) ∧
        (generate engine s.dry "2024" p ⟨w.files, console⟩).world.console =
          { console with printed := console.printed ++ String.join (written.map (·.2)) } := by
  intro snapshot engine s p console w
  have done : (generate engine s.real "2024" p w).failure = none :=
    Option.isNone_iff_eq_none.mp (by decide +kernel)
  obtain ⟨same, faithful⟩ := dry_run_prints_what_is_written engine s "2024" p w console
  obtain ⟨_, written, _, _, writes, reads, _, fine, printed⟩ := faithful done rfl
  exact ⟨done, fine, same, written, writes, reads, printed⟩

end TaskSynth.Cli
