import TaskSynth.Binding.Support
import TaskSynth.Proofs.Manifest.EnvNames
import TaskSynth.Proofs.Text.Casing

/-! The variable that generated code looks up for a name, and the one that a step binds. Both put
the upper case of the name between the same texts; the step takes the full upper case, and the
generated code the simple one, which is what Go has. -/
namespace TaskSynth.Binding

/-- How generated code finds the variable of a param or a result: the opening of the function, what
has the name there, the texts around its upper case, and what receives the value. -/
structure Lookup where
  function : String
  receiver : String
  front : String
  back : String
  value : String

namespace Lookup

def ofKind : Entity.Kind → Lookup
  | .param => ⟨"func Read(v Parameter) error \x7b", "v", "PARAM_", "_VALUE", "envVarValue"⟩
  | .result => ⟨"func Write(r Result) error \x7b", "r", "RESULT_", "_PATH", "resultPath"⟩

/-- The lines of Go that name the variable and look it up. -/
def lines (l : Lookup) : List String :=
  [l.function,
   "\tenvVarName := \"" ++ l.front ++ "\" + strings.ToUpper(" ++ l.receiver ++ ".Name()) + \"" ++
     l.back ++ "\"",
   "",
   "\t" ++ l.value ++ ", ok := os.LookupEnv(envVarName)"]

/-- The variable that these lines look up where the name is `name`. -/
def envName (l : Lookup) (name : String) : String := l.front ++ Text.toSimpleUpper name ++ l.back

end Lookup

def supportFile : Entity.Kind → String
  | .param => parameterFile
  | .result => resultFile

def supportLines : Entity.Kind → List String
  | .param => parameterLines
  | .result => resultLines

/-- The variable that a step binds for a param or a result. -/
def boundName : Entity.Kind → String → String
  | .param => Manifest.paramEnvName
  | .result => Manifest.resultEnvName

def SupportFile.LooksUp (f : SupportFile) (l : Lookup) : Prop :=
  ∃ before after, f.content = before ++ "\n" ++ "\n".intercalate l.lines ++ "\n" ++ after

theorem supportLines_split (kind : Entity.Kind) :
    ∃ before after, supportLines kind = before ++ (Lookup.ofKind kind).lines ++ after ∧
      before ≠ [] ∧ after ≠ [] := by
  cases kind with
  | param => exact ⟨parameterLines.take 12, parameterLines.drop 16, rfl, by decide, by decide⟩
  | result => exact ⟨resultLines.take 13, resultLines.drop 17, rfl, by decide, by decide⟩

theorem looksUp_of_mem {kind : Entity.Kind} {packageName : String} {header : LicenseHeader}
    {f : SupportFile} (member : f ∈ (supportFiles packageName header).value)
    (own : f.fileName = supportFile kind) : f.LooksUp (.ofKind kind) := by
  obtain ⟨opening, content⟩ : ∃ opening,
      f.content = opening ++ "\n\n" ++ "\n".intercalate (supportLines kind) ++ "\n" := by
    simp only [supportFiles, List.mem_cons, List.not_mem_nil, or_false] at member
    obtain rfl | rfl := member
    · cases kind with
      | param => simp [supportFile, resultFile, parameterFile] at own
      | result => exact ⟨_, rfl⟩
    · cases kind with
      | param => exact ⟨_, rfl⟩
      | result => simp [supportFile, resultFile, parameterFile] at own
  obtain ⟨before, after, split, earlier, later⟩ := supportLines_split kind
  have here : (Lookup.ofKind kind).lines ≠ [] := by simp [Lookup.lines]
  have front : before ++ (Lookup.ofKind kind).lines ≠ [] := by simp [earlier]
  rw [split, String.intercalate_append_of_ne_nil front later,
    String.intercalate_append_of_ne_nil earlier here] at content
  refine ⟨opening ++ "\n\n" ++ "\n".intercalate before, "\n".intercalate after ++ "\n", ?_⟩
  simp only [content, String.append_assoc]

theorem boundName_eq_envName_iff (kind : Entity.Kind) (name : String) :
    boundName kind name = (Lookup.ofKind kind).envName name ↔
      ∀ c ∈ name.toList, (Text.upperChars c).length = 1 := by
  rw [← Text.toUpper_eq_simple_iff]
  cases kind <;>
    simp only [boundName, Manifest.paramEnvName, Manifest.resultEnvName, Lookup.ofKind,
      Lookup.envName, String.append_left_inj, String.append_right_inj]

theorem boundNames_of_build {p : Package} {c : Manifest.Command} {m : Manifest}
    (built : (Manifest.build p c).value = .ok (some m)) :
    m.step.env.map (·.name) =
      (m.names .param).map (boundName .param) ++ (m.names .result).map (boundName .result) := by
  rw [Manifest.envNames_of_build built, Manifest.names_of_build built,
    Manifest.names_of_build built]
  rfl

/-- A step binds one variable for each name, generated code looks one up, and the two are the same
exactly if the upper case of each character of the name is one character. -/
theorem bound_looked_up_iff (kind : Entity.Kind) (name packageName : String)
    (header : LicenseHeader) :
    (∀ p c m, (Manifest.build p c).value = .ok (some m) → m.step.env.map (·.name) =
      (m.names .param).map (boundName .param) ++ (m.names .result).map (boundName .result)) ∧
    (∃ f ∈ (supportFiles packageName header).value,
      f.fileName = supportFile kind ∧ f.LooksUp (.ofKind kind)) ∧
    (boundName kind name = (Lookup.ofKind kind).envName name ↔
      ∀ c ∈ name.toList, (Text.upperChars c).length = 1) := by
  refine ⟨fun p c m built => boundNames_of_build built, ?_, boundName_eq_envName_iff kind name⟩
  obtain ⟨f, member, own⟩ : ∃ f ∈ (supportFiles packageName header).value,
      f.fileName = supportFile kind := by
    cases kind <;> simp [supportFiles, supportFile]
  exact ⟨f, member, own, looksUp_of_mem member own⟩

/-- A name beyond ASCII whose characters have one upper-case character each. -/
theorem bound_looked_up_iff_umlaut :
    let p : Package := ⟨"main", "acme/main", "", [], some ⟨"greet", "0.1"⟩, [],
      [⟨"Height", "", .scalar true, .param ⟨"höhe", none, false⟩⟩]⟩
    let c : Manifest.Command := ⟨fun _ _ => .ok "run"⟩
    ∃ m, (Manifest.build p c).value = .ok (some m) ∧
      m.step.env.map (·.name) = [(Lookup.ofKind .param).envName "höhe"] := by
  intro p c
  have built : ∃ m, (Manifest.build p c).value = .ok (some m) := ⟨_, rfl⟩
  obtain ⟨m, built⟩ := built
  have looked := bound_looked_up_iff .param "höhe" "main" .none
  have single : "höhe".toList.all fun c => decide ((Text.upperChars c).length = 1) := by decide
  have same := looked.2.2.mpr fun c member =>
    of_decide_eq_true (List.all_eq_true.mp single c member)
  refine ⟨m, built, ?_⟩
  rw [looked.1 p c m built, Manifest.names_of_build built, Manifest.names_of_build built, ← same]
  rfl

/-- The step binds two letters for the sharp s, and generated code looks for the letter itself. -/
theorem bound_not_looked_up :
    boundName .param "straße" = "PARAM_STRASSE_VALUE" ∧
    (Lookup.ofKind .param).envName "straße" = "PARAM_STRAßE_VALUE" ∧
    boundName .result "straße" = "RESULT_STRASSE_PATH" ∧
    (Lookup.ofKind .result).envName "straße" = "RESULT_STRAßE_PATH" ∧
    ∀ kind, boundName kind "straße" ≠ (Lookup.ofKind kind).envName "straße" := by
  refine ⟨by decide +kernel, by decide +kernel, by decide +kernel, by decide +kernel, ?_⟩
  intro kind same
  have single := (boundName_eq_envName_iff kind "straße").mp same 'ß' (by decide)
  exact absurd single (by decide)

end TaskSynth.Binding
