import TaskSynth.Proofs.FileTree.Ancestors
import TaskSynth.Proofs.Output.Printing

/-! What a run leaves behind, in the files and on standard output. If it succeeds, each file holds
what was delivered to it last, the texts that are printed follow each other, and all else is as it
was but for directories on the way to the files. If it fails, so it is with what was delivered
before the failure, and of the artifact that failed there is no more than a part. -/
namespace TaskSynth.Output

open FileTree

def shown (steps : List (Rule × Artifact)) : List String :=
  (steps.filter (·.1 = .stdout)).map (·.2.content)

structure Leaves (u : World) (steps : List (Rule × Artifact)) (w : World) : Prop where
  current : w.files.current = u.files.current
  holds : ∀ x ∈ filed steps, w.files.locate x.1 = .ok (place u.files.current x.1) ∧
    ∃ text, LastAt u.files.current (filed steps) (place u.files.current x.1) text ∧
      w.files.read x.1 = .ok text
  others : ∀ l, (∀ x ∈ filed steps, place u.files.current x.1 ≠ l) →
    w.files.find? l = u.files.find? l ∨
      u.files.find? l = none ∧ w.files.find? l = some .directory ∧
        ∃ x ∈ filed steps, IsAncestor u.files.current x.1 l
  printed : w.console.printed = u.console.printed ++ String.join (shown steps)
  whole : u.console.torn = false → w.console.torn = false

/-- What a refused artifact leaves. One that has a path leaves directories on the way to it, and the
file itself may be cut short where there is no more room. One that is printed leaves the first
characters of its content, and perhaps a part of the next one. -/
inductive Refused (u : World) (rule : Rule) (a : Artifact) (w : World) : Error → Prop where
  | file {path : String} {cause : FileTree.Error} :
      rule.destination a = .ok (some path) → w.console = u.console → Grows u.files w.files →
      (∀ l, u.files.find? l = none → w.files.find? l = some .directory →
        IsAncestor u.files.current path l) →
      Refused u rule a w (.notWritten path cause)
  | cut {path : String} {part : FileTree.Content} :
      rule.destination a = .ok (some path) → w.console = u.console →
      CutOf part (.text a.content) → Written u.files path part w.files →
      (∀ l, u.files.find? l = none → w.files.find? l = some .directory →
        IsAncestor u.files.current path l) →
      Refused u rule a w (.notWritten path .noSpace)
  | print {front back : List Char} {cause : FileTree.Error} :
      rule = .stdout → w.files = u.files → a.content.toList = front ++ back →
      w.console.printed = u.console.printed ++ String.ofList front →
      (w.console.torn = true → back ≠ []) →
      Refused u rule a w (.notPrinted cause)

/-- The summary of deliveries: the destinations of all that is not printed, and the number of what
is. -/
structure Summarizes (steps : List (Rule × Artifact)) (s : Run.Summary) : Prop where
  written : (steps.filter (·.1 ≠ .stdout)).map (fun s => s.1.destination s.2) =
    s.written.map fun path => .ok (some path)
  printed : s.printed = steps.countP (·.1 = .stdout)

/-- How the deliveries of a run end: all of them are made, or one is refused and none after it is
tried. -/
inductive Ends (u : World) (steps : List (Rule × Artifact)) (w : World) :
    Except Run.Error Run.Summary → Prop where
  | ok {s : Run.Summary} :
      Summarizes steps s → Delivered u steps w → Leaves u steps w → Ends u steps w (.ok s)
  | error {front back : List (Rule × Artifact)} {rule : Rule} {a : Artifact} {v : World}
      {cause : Error} :
      steps = front ++ (rule, a) :: back → Delivered u front v → Leaves u front v →
      rule.deliver a v = (w, .error cause) → Refused v rule a w cause →
      Ends u steps w (.error (.output cause))

namespace Console

variable {c c' : Console} {s : String}

theorem printed_of_print (done : c.print s = (c', none)) :
    c'.printed = c.printed ++ s ∧ (c.torn = false → c'.torn = false) := by
  unfold print at done
  split at done
  · cases done
    exact ⟨rfl, id⟩
  · split at done
    · cases done
      exact ⟨rfl, fun _ => rfl⟩
    · cases done

theorem fitting_split (room : Nat) (cs : List Char) :
    ∃ back, cs = (fitting room cs).1 ++ back ∧ ((fitting room cs).2 = true → back ≠ []) := by
  induction cs generalizing room with
  | nil => exact ⟨[], rfl, fun torn => nomatch torn⟩
  | cons c rest ih =>
    unfold fitting
    split
    · obtain ⟨back, whole, torn⟩ := ih (room - c.utf8Size)
      exact ⟨back, congrArg (c :: ·) whole, torn⟩
    · exact ⟨c :: rest, rfl, fun _ => List.cons_ne_nil c rest⟩

theorem printed_of_print_error {e : FileTree.Error} (failed : c.print s = (c', some e)) :
    ∃ front back, s.toList = front ++ back ∧ c'.printed = c.printed ++ String.ofList front ∧
      (c'.torn = true → back ≠ []) := by
  unfold print at failed
  split at failed
  · cases failed
  · rename_i room _
    split at failed
    · cases failed
    · cases failed
      obtain ⟨back, whole, torn⟩ := fitting_split room s.toList
      exact ⟨_, back, whole, rfl, torn⟩

end Console

section

variable {u v w : World} {rule : Rule} {a : Artifact} {steps : List (Rule × Artifact)}

theorem Rule.ne_stdout_of_destination {file : String}
    (goes : rule.destination a = .ok (some file)) : rule ≠ .stdout := by
  rintro rfl
  cases goes

theorem Rule.refused_of_deliver {e : Error} (placed : ∃ place, rule.destination a = .ok place)
    (failed : rule.deliver a u = (w, .error e)) : Refused u rule a w e := by
  rcases deliver_error_cases placed failed with
    ⟨rfl, same, cause, rfl, refused⟩ | ⟨file, goes, same, cause, rfl, refused⟩
  · obtain ⟨front, back, content, printed, torn⟩ := Console.printed_of_print_error refused
    exact .print rfl same content printed torn
  · have above (l : Location) (missing : u.files.find? l = none)
        (made : w.files.find? l = some .directory) : IsAncestor u.files.current file l :=
      isAncestor_of_write missing ((congrArg (·.1.find? l) refused).trans made)
    rcases write_error_cases refused with grows | ⟨rfl, part, front, written⟩
    · exact .file goes same grows above
    · exact .cut goes same front written above

theorem Delivered.console (delivered : Delivered u steps w) :
    w.console.printed = u.console.printed ++ String.join (shown steps) ∧
      (u.console.torn = false → w.console.torn = false) := by
  induction delivered with
  | nil w => simp [shown]
  | @cons u v w rule a path rest own _ ih =>
    rcases Rule.deliver_cases own with ⟨rfl, -, -, print⟩ | ⟨file, goes, -, same, -⟩
    · obtain ⟨printed, whole⟩ := Console.printed_of_print print
      have texts : shown ((.stdout, a) :: rest) = a.content :: shown rest := by simp [shown]
      rw [ih.1, printed, texts, String.join_cons, String.append_assoc]
      exact ⟨rfl, fun clean => ih.2 (whole clean)⟩
    · have texts : shown ((rule, a) :: rest) = shown rest := by
        simp [shown, Rule.ne_stdout_of_destination goes]
      rw [texts, ← same]
      exact ih

theorem Delivered.leaves (delivered : Delivered u steps w) : Leaves u steps w := by
  have writes := delivered.writes
  refine ⟨writes.keepsDirectories.current, ?_, ?_, delivered.console.1, delivered.console.2⟩
  · exact fun x member => ⟨(writes.located x member).1, writes.read member⟩
  · intro l absent
    -- No file has its place here, so there is what was there, or what a write made on its way.
    rcases writes.holds l with ⟨text, ⟨front, path, back, whole, here, _⟩, _⟩ | ⟨_, same⟩
    · have member : (path, text) ∈ filed steps := by simp [whole]
      exact absurd here (absent (path, text) member)
    · exact same.imp_right fun ⟨missing, made⟩ => ⟨missing, made, writes.made missing made⟩

theorem Delivered.destinations (delivered : Delivered u steps w) :
    (steps.filter (·.1 ≠ .stdout)).map (fun s => s.1.destination s.2) =
      (filed steps).map fun x => .ok (some x.1) := by
  induction delivered with
  | nil => rfl
  | @cons u v w rule a path rest own _ ih =>
    have split : filed ((rule, a) :: rest) = rule.files [a] ++ filed rest := rfl
    rw [split, List.map_append, ← ih]
    rcases Rule.deliver_cases own with ⟨rfl, _⟩ | ⟨file, goes, _⟩
    · rfl
    · simp [Rule.ne_stdout_of_destination goes, goes, Rule.files]

namespace Run

theorem ends_writeAll {rs : List Rendered} (placed : ∀ r ∈ rs, r.rule.Places r.artifacts)
    (w : World) : Ends w (deliveries rs) (writeAll w rs).1 (writeAll w rs).2.value := by
  rcases writeAll_cases rs w with ⟨value, delivered⟩ | ⟨cause, value, stops⟩
  · rw [value]
    refine .ok ⟨?_, rfl⟩ delivered delivered.leaves
    rw [delivered.destinations, List.map_map]
    rfl
  · obtain ⟨front, rule, a, back, v, whole, delivered, refused⟩ := stops
    have place : ∃ place, rule.destination a = .ok place :=
      places_of_deliveries placed (whole ▸ List.mem_append_right _ List.mem_cons_self)
    rw [value]
    exact .error whole delivered delivered.leaves refused (Rule.refused_of_deliver place refused)

end Run

end

/-- Whatever is rendered is delivered in its order, up to the first artifact that is refused. A run
does so with what its jobs render; if one of them does not, the run does nothing. -/
theorem run_effect (w : World) :
    (∀ rs : List Run.Rendered, (∀ r ∈ rs, r.rule.Places r.artifacts) →
      Ends w (Run.deliveries rs) (Run.writeAll w rs).1 (Run.writeAll w rs).2.value) ∧
    ∀ packages jobs,
      (∃ rs, List.Forall₂ (Job.Renders packages) jobs rs ∧
        Ends w (Run.deliveries rs) (run packages jobs w).1 (run packages jobs w).2.value) ∨
      ∃ e, (run packages jobs w).2.value = .error e ∧ ¬ e.IsWrite ∧
        (run packages jobs w).1 = w := by
  refine ⟨fun rs placed => Run.ends_writeAll placed w, fun packages jobs => ?_⟩
  cases rendered : (Run.renderAll packages jobs).value with
  | ok rs =>
    refine Or.inl ⟨rs, Run.renderAll_eq_ok_iff.mp rendered, ?_⟩
    simp only [run, rendered]
    exact Run.ends_writeAll (Run.places_of_renderAll rendered) w
  | error e =>
    obtain ⟨failed, same⟩ := run_of_render_error rendered w
    obtain ⟨_, j, _, _, _, fails⟩ := Run.renderAll_eq_error_iff.mp rendered
    exact Or.inr ⟨e, failed, fails.not_isWrite, same⟩

/-- Four jobs under three rules, two of which go to one file; then with room on standard output for
the first text and a part of the second, and with room for a part of a file. -/
theorem run_effect_mixed :
    let rs : List Run.Rendered :=
      [⟨"manifest", .directory "out", [.rooted "base/a.yaml" "early"]⟩,
       ⟨"support", .stdout, [.rooted "b.go" "shown "]⟩,
       ⟨"bindings", .artifacts, [⟨some "out/base/../base", "a.yaml", "late"⟩]⟩,
       ⟨"support", .stdout, [.rooted "c.go" "twice"]⟩]
    let steps := Run.deliveries rs
    let files : FileTree :=
      .ofEntries ["work"] [(["work"], .directory), (["notes", "work"], .file (.text "kept"))]
    let w : World := ⟨files, .empty none⟩
    let narrow : World := ⟨files, .empty (some 8)⟩
    let cramped : World := ⟨{ files with room := some 3 }, .empty none⟩
    (∀ r ∈ rs, r.rule.Places r.artifacts) ∧
    (∃ s, (Run.writeAll w rs).2.value = .ok s ∧ Summarizes steps s ∧
      Leaves w steps (Run.writeAll w rs).1 ∧
      (Run.writeAll w rs).1.console.printed = "shown twice" ∧
      ((Run.writeAll w rs).1.files.read "out/base/a.yaml").toOption = some "late") ∧
    (∃ e, (Run.writeAll narrow rs).2.value = .error e ∧
      Ends narrow steps (Run.writeAll narrow rs).1 (.error e) ∧
      (Run.writeAll narrow rs).1.console.printed = "shown tw") ∧
    ∃ e, (Run.writeAll cramped rs).2.value = .error e ∧
      Ends cramped steps (Run.writeAll cramped rs).1 (.error e) ∧
      ((Run.writeAll cramped rs).1.files.read "out/base/a.yaml").toOption = some "ear" := by
  intro rs steps files w narrow cramped
  have placed : ∀ r ∈ rs, r.rule.Places r.artifacts := by
    simp [rs, Rule.Places, Rule.destination, Artifact.rooted]
  have ends := (run_effect w).1 rs placed
  have endsNarrow := (run_effect narrow).1 rs placed
  have endsCramped := (run_effect cramped).1 rs placed
  have printed : (Run.writeAll w rs).1.console.printed = "shown twice" := by decide +kernel
  have printedNarrow : (Run.writeAll narrow rs).1.console.printed = "shown tw" := by
    decide +kernel
  have reads : ((Run.writeAll w rs).1.files.read "out/base/a.yaml").toOption = some "late" := by
    decide +kernel
  have readsCramped :
      ((Run.writeAll cramped rs).1.files.read "out/base/a.yaml").toOption = some "ear" := by
    decide +kernel
  obtain ⟨s, done⟩ : ∃ s, (Run.writeAll w rs).2.value = .ok s :=
    Outcome.exists_of_isOk (by decide +kernel)
  obtain ⟨e, refused⟩ : ∃ e, (Run.writeAll narrow rs).2.value = .error e :=
    Outcome.exists_of_not_isOk (by decide +kernel)
  obtain ⟨e', refusedCramped⟩ : ∃ e, (Run.writeAll cramped rs).2.value = .error e :=
    Outcome.exists_of_not_isOk (by decide +kernel)
  rw [done] at ends
  rw [refused] at endsNarrow
  rw [refusedCramped] at endsCramped
  obtain ⟨summary, _, leaves⟩ := ends
  exact ⟨placed, ⟨s, done, summary, leaves, printed, reads⟩,
    ⟨e, refused, endsNarrow, printedNarrow⟩, ⟨e', refusedCramped, endsCramped, readsCramped⟩⟩

end TaskSynth.Output
