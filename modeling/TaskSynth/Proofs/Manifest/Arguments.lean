import TaskSynth.Proofs.Manifest.Collection
import TaskSynth.Proofs.Text.Split

namespace TaskSynth.Manifest

open Outcome

/-- At least one text, none with a space in it, that a space between each two of them joins to the
command. -/
structure Cuts (command : String) (args : List String) : Prop where
  inhabited : args ≠ []
  plain : ∀ a ∈ args, ' ' ∉ a.toList
  joined : " ".intercalate args = command

/-- The arguments that a command has. A space at its start or at its end, and two that stand
together, make an empty argument; all other characters are kept as they are. -/
structure ArgumentsOf (command : String) (args : List String) : Prop where
  cuts : Cuts command args
  unique : ∀ others, Cuts command others → others = args
  length : args.length = command.toList.count ' ' + 1
  kept : args.flatMap String.toList = command.toList.filter (· ≠ ' ')
  leading : ∀ rest, command = " " ++ rest → args = "" :: arguments rest
  trailing : ∀ front, command = front ++ " " → args = arguments front ++ [""]
  neighbours : ∀ front rest, command = front ++ "  " ++ rest →
    args = arguments front ++ "" :: arguments rest

section

variable {command : String} {args : List String}

theorem arguments_eq (command : String) :
    arguments command = (command.toList.splitOn ' ').map String.ofList := by
  rw [arguments, Text.splitAtChar_eq_splitOn]

theorem cuts_iff : Cuts command args ↔ args = arguments command := by
  have pieces : args = arguments command ↔
      args.map String.toList = command.toList.splitOn ' ' := by
    rw [arguments_eq]
    constructor
    · rintro rfl
      simp [Function.comp_def]
    · intro same
      rw [← same]
      simp [Function.comp_def]
  have joins : " ".intercalate args = command ↔
      [' '].intercalate (args.map String.toList) = command.toList := by
    rw [← String.toList_inj, String.toList_intercalate]
    rfl
  rw [pieces]
  constructor
  · rintro ⟨inhabited, plain, joined⟩
    refine (Text.intercalate_eq_iff ?_ ?_).mp (joins.mp joined)
    · exact mt List.map_eq_nil_iff.mp inhabited
    · exact List.forall_mem_map.mpr plain
  · intro same
    refine ⟨?_, ?_, joins.mpr ?_⟩
    · rintro rfl
      exact List.splitOn_ne_nil ' ' command.toList same.symm
    · intro a member
      exact Text.not_mem_of_mem_splitOn (same ▸ List.mem_map_of_mem member)
    · rw [same, List.intercalate_splitOn]

theorem arguments_append (front rest : String) :
    arguments (front ++ " " ++ rest) = arguments front ++ arguments rest := by
  have spaced : (front ++ " " ++ rest).toList = front.toList ++ ' ' :: rest.toList := by
    simp [String.toList_append]
  simp only [arguments_eq, spaced, List.splitOn_append_cons_self, List.map_append]

theorem arguments_empty : arguments "" = [""] := rfl

theorem argumentsOf_arguments (command : String) : ArgumentsOf command (arguments command) := by
  refine ⟨cuts_iff.mpr rfl, fun others => cuts_iff.mp, ?_, ?_, ?_, ?_, ?_⟩
  · rw [arguments_eq, List.length_map, Text.length_splitOn]
  · rw [← Text.flatten_splitOn, arguments_eq, List.flatMap_map]
    simp [List.flatMap_id']
  · rintro rest rfl
    exact arguments_append "" rest
  · rintro front rfl
    simpa [arguments_empty] using arguments_append front ""
  · rintro front rest rfl
    have spaced : front ++ "  " ++ rest = front ++ " " ++ ("" ++ " " ++ rest) := by
      simp [← String.toList_inj]
    rw [spaced, arguments_append, arguments_append, arguments_empty]
    rfl

end

/-- Where a command is rendered for a package, its text has exactly one list of arguments, and these
are the command of the step of any manifest that is built. -/
theorem command_cut_at_spaces {c : Command} {p : Package} {text : String}
    (rendered : c.render p.name p.importPath = .ok text) :
    ∃ args, c.arguments p.name p.importPath = .ok args ∧ ArgumentsOf text args ∧
      ∀ m, (build p c).value = .ok (some m) → m.step.command = args := by
  have found : c.arguments p.name p.importPath = .ok (arguments text) :=
    map_eq_ok_iff.mpr ⟨text, rendered, rfl⟩
  refine ⟨arguments text, found, argumentsOf_arguments text, ?_⟩
  intro m built
  obtain ⟨t, params, command, _, _, cut, rfl⟩ := (build_eq_some_iff p c m).mp built
  exact Except.ok.inj (cut.symm.trans found)

theorem command_cut_at_spaces_blank :
    let c : Command :=
      ⟨fun _ names => .ok (" run\t-v  " ++ (names.lookup "ko_app_name").getD "" ++ "\n ")⟩
    let p : Package :=
      ⟨"main", "acme/my app", "", [], some ⟨"greet", "0.1"⟩, [], []⟩
    c.render p.name p.importPath = .ok " run\t-v  my app\n " ∧
      ArgumentsOf " run\t-v  my app\n " ["", "run\t-v", "", "my", "app\n", ""] ∧
      ∃ m, (build p c).value = .ok (some m) ∧
        m.step.command = ["", "run\t-v", "", "my", "app\n", ""] := by
  intro c p
  have rendered : c.render p.name p.importPath = .ok " run\t-v  my app\n " := by decide +kernel
  obtain ⟨args, found, own, step⟩ := command_cut_at_spaces rendered
  obtain rfl : ["", "run\t-v", "", "my", "app\n", ""] = args :=
    own.unique _ ⟨by decide, by decide, by decide⟩
  have built : ∃ m, (build p c).value = .ok (some m) :=
    ⟨_, (build_eq_some_iff p c _).mpr ⟨_, _, _, rfl, .nil, found, rfl⟩⟩
  obtain ⟨m, built⟩ := built
  exact ⟨rendered, own, m, built, step m built⟩

end TaskSynth.Manifest
