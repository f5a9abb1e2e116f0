import TaskSynth.Proofs.Binding.Layout
import TaskSynth.Proofs.Cli.DryRun

namespace TaskSynth.Cli

open FileTree Output

/-- An argument counts before a setting, and a setting before the default. -/
def chosen : Option String → Option String → String → String
  | some argument, _, _ => argument
  | none, some setting, _ => setting
  | none, none, fallback => fallback

def supportClause : String := "\n\nimport (\n\t\"errors\"\n\t\"fmt\"\n\t\"os\"\n\t\"strings\"\n)"

/-- A support file that declares a package: the package clause is followed by the imports. -/
def supportText (h : Binding.LicenseHeader) (name : String) (ls : List String) : String :=
  Binding.preamble h name ++ supportClause ++ "\n\n" ++ "\n".intercalate ls ++ "\n"

def supportFilesIn (directory : String) (h : Binding.LicenseHeader) (name : String) :
    List (String × String) :=
  [(join directory "result.go", supportText h name Binding.resultLines),
   (join directory "parameter.go", supportText h name Binding.parameterLines)]

def bindingFiles (h : Binding.LicenseHeader) (ps : List Package) : List (String × String) :=
  ps.filterMap fun p =>
    (Binding.synthesize p h).value.map fun source => (join p.dir Binding.bindingsFile, source)

def filedJobs (h : Binding.LicenseHeader) (name directory : String) : List Job :=
  [⟨.bindings h, .artifacts⟩, ⟨.support name h, .directory directory⟩]

/-- What a run leaves that generates bindings: the files are written in this order, their paths are
listed, and both support files read as they were written. -/
structure Supports (ps : List Package) (h : Binding.LicenseHeader) (name directory : String)
    (w after : World) : Prop where
  writes : Writes w.files (bindingFiles h ps ++ supportFilesIn directory h name) after.files
  told : after = printLines ⟨after.files, w.console⟩
    (report ⟨(bindingFiles h ps ++ supportFilesIn directory h name).map (·.1), 0⟩)
  result : after.files.read (join directory "result.go") =
    .ok (supportText h name Binding.resultLines)
  parameter : after.files.read (join directory "parameter.go") =
    .ok (supportText h name Binding.parameterLines)

section

variable {s : Setting} {w : World} {dir packageName : Option String} {h : Binding.LicenseHeader}

theorem getD_or (argument setting : Option String) (fallback : String) :
    (argument.or setting).getD fallback = chosen argument setting fallback := by
  cases argument <;> cases setting <;> rfl

theorem supportPackage_eq (s : Setting) (packageName : Option String) :
    supportPackage s packageName = chosen packageName s.config.internalPackage "tekton" :=
  getD_or _ _ _

theorem supportDir_eq (s : Setting) (dir packageName : Option String) :
    supportDir s dir packageName =
      join (chosen dir s.config.internalDir "internal/")
        (chosen packageName s.config.internalPackage "tekton") := by
  simp only [supportDir, getD_or, defaultInternalDir, defaultInternalPackage]

theorem supportFiles_value (name : String) (h : Binding.LicenseHeader) :
    (Binding.supportFiles name h).value =
      [⟨"result.go", supportText h name Binding.resultLines⟩,
       ⟨"parameter.go", supportText h name Binding.parameterLines⟩] := by
  have some : Binding.supportImports ≠ [] := List.cons_ne_nil _ _
  have clause : Binding.importClause Binding.supportImports = supportClause := rfl
  simp only [Binding.supportFiles, Binding.fileHeader_of_imports some, clause, supportText,
    Binding.resultFile, Binding.parameterFile]

theorem files_support (h : Binding.LicenseHeader) (name directory : String) (ps : List Package) :
    Job.files ps ⟨.support name h, .directory directory⟩ = supportFilesIn directory h name := by
  simp only [Job.files, Generator.generate, supportArtifacts, Logged.value_map,
    supportFiles_value, supportFilesIn]
  rfl

theorem files_bindings (h : Binding.LicenseHeader) (ps : List Package) :
    Job.files ps ⟨.bindings h, .artifacts⟩ = bindingFiles h ps := by
  simp only [Job.files, Generator.generate, Logged.value_map, bindAll_value, Rule.files,
    bindingFiles, List.filterMap_filterMap]
  refine List.filterMap_congr fun p _ => ?_
  cases (Binding.synthesize p h).value <;> rfl

theorem place_support (cwd : Location) (directory : String) :
    place cwd (join directory "result.go") = "result.go" :: place cwd directory ∧
      place cwd (join directory "parameter.go") = "parameter.go" :: place cwd directory := by
  constructor <;> exact place_join (by decide) cwd directory

theorem reads_of_writes {t u : FileTree} {bindings : List (String × String)}
    {directory name : String}
    (done : Writes t (bindings ++ supportFilesIn directory h name) u) :
    u.read (join directory "result.go") = .ok (supportText h name Binding.resultLines) ∧
      u.read (join directory "parameter.go") =
        .ok (supportText h name Binding.parameterLines) := by
  obtain ⟨result, parameter⟩ := place_support t.current directory
  -- The second of the files does not go to the place of the first.
  have apart : place t.current (join directory "parameter.go") ≠
      place t.current (join directory "result.go") := by
    rw [result, parameter]
    intro same
    exact absurd (List.cons.inj same).1 (by decide)
  refine ⟨done.read_last (List.forall_mem_singleton.mpr apart), ?_⟩
  rw [supportFilesIn, List.append_cons] at done
  exact done.read_last (List.forall_mem_nil _)

theorem bindingJobs_real : bindingJobs s.real dir packageName h =
    filedJobs h (supportPackage s packageName) (supportDir s dir packageName) := rfl

theorem supports_of_run {ps : List Package} {directory name : String} {summary : Run.Summary}
    (done : (Output.run ps (filedJobs h name directory) w).2.value = .ok summary) :
    Supports ps h name directory w
      (printLines (Output.run ps (filedJobs h name directory) w).1 (report summary)) := by
  obtain ⟨writes, paths⟩ := writes_of_run done
  have files : (filedJobs h name directory).flatMap (Job.files ps) =
      bindingFiles h ps ++ supportFilesIn directory h name := by
    rw [filedJobs, List.flatMap_cons, List.flatMap_singleton, files_bindings, files_support]
  have kept : (Output.run ps (filedJobs h name directory) w).1.console = w.console :=
    console_run_of_filed (by simp [filedJobs]) w
  rw [files] at writes paths
  obtain ⟨result, parameter⟩ := reads_of_writes writes
  refine ⟨writes, ?_, result, parameter⟩
  simp only [printLines, report, ← paths, kept]

end

/-- Arguments, settings and defaults give the support files of every real run one directory and one
package: the name is found twice, for the directory and for the files, and it is the same. If the
run succeeds, the files are the last two written, and each declares the package. -/
theorem support_agrees (engine : Manifest.Engine) (s : Setting) (today : String)
    (dir packageName headerFile year : Option String) (w : World) :
    let name := chosen packageName s.config.internalPackage "tekton"
    let directory := join (chosen dir s.config.internalDir "internal/") name
    let real := generate engine s.real today (.bindings dir packageName headerFile year) w
    supportPackage s packageName = name ∧ supportDir s dir packageName = directory ∧
      (real.failure = none →
        ∃ loaded h,
          packages (.ofTree w.files) s = .ok loaded ∧
          header (.ofTree w.files) s headerFile year today = .ok h ∧
          Supports loaded.value h name directory w real.world) := by
  intro name directory real
  have package : supportPackage s packageName = name := supportPackage_eq s packageName
  have outer : supportDir s dir packageName = directory := supportDir_eq s dir packageName
  refine ⟨package, outer, fun done => ?_⟩
  obtain ⟨loaded, js, summary, read, planned, outcome, world⟩ := run_of_generate_real done
  obtain ⟨h, found, rfl⟩ := bindingJobs_eq_ok_iff.mp planned
  rw [bindingJobs_real, package, outer] at outcome world
  exact ⟨loaded, h, read, found, world ▸ supports_of_run outcome⟩

/-- The directory is an argument, and the package a setting that leads out of it. -/
theorem support_agrees_outside :
    let snapshot := "packages:\n- name: main\n  import_path: acme/main\n  dir: src\n" ++
      "  markers:\n    tektasker:task:\n    - name: greet\n      version: v1\n"
    let engine : Manifest.Engine := ⟨fun _ => .ok ⟨fun _ _ => .ok "run"⟩⟩
    let s : Setting := ⟨false, ["main.yaml"],
      { Config.empty with internalDir := some "unused", internalPackage := some "../tk" }⟩
    let w : World := ⟨.ofEntries ["work"] [(["work"], .directory),
      (["main.yaml", "work"], .file (.text snapshot))], .empty none⟩
    ∃ after : World,
      (generate engine s.real "2024" (.bindings (some "lib/") none none none) w).failure = none ∧
      (generate engine s.real "2024" (.bindings (some "lib/") none none none) w).world = after ∧
      after.files.read "lib/../tk/result.go" =
        .ok (supportText .none "../tk" Binding.resultLines) ∧
      after.files.read "lib/../tk/parameter.go" =
        .ok (supportText .none "../tk" Binding.parameterLines) := by
  intro snapshot engine s w
  have done :
      (generate engine s.real "2024" (.bindings (some "lib/") none none none) w).failure = none :=
    Option.isNone_iff_eq_none.mp (by decide +kernel)
  obtain ⟨_, _, written⟩ := support_agrees engine s "2024" (some "lib/") none none none w
  obtain ⟨loaded, h, _, found, supports⟩ := written done
  obtain rfl : Binding.LicenseHeader.none = h := Except.ok.inj found
  have outer : chosen (some "lib/") s.config.internalDir "internal/" = "lib/" := rfl
  have name : chosen none s.config.internalPackage "tekton" = "../tk" := rfl
  have result : join (join "lib/" "../tk") "result.go" = "lib/../tk/result.go" := by decide
  have parameter : join (join "lib/" "../tk") "parameter.go" = "lib/../tk/parameter.go" := by decide
  rw [outer, name] at supports
  rw [← result, ← parameter]
  exact ⟨_, done, rfl, supports.result, supports.parameter⟩

end TaskSynth.Cli
