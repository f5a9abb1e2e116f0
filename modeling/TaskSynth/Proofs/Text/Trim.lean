import Mathlib.Data.List.DropRight
import TaskSynth.Text.Blank

namespace TaskSynth.Text

def StartsInText (s : String) : Prop := ∃ c, s.toList.head? = some c ∧ isBlank c = false

def EndsInText (s : String) : Prop := ∃ c, s.toList.getLast? = some c ∧ isBlank c = false

section

variable {s t : String} {cs : List Char}

theorem EndsInText.append (ends : EndsInText t) (s : String) : EndsInText (s ++ t) := by
  obtain ⟨c, last, text⟩ := ends
  exact ⟨c, by rw [String.toList_append, List.getLast?_append, last, Option.some_or], text⟩

theorem StartsInText.append (starts : StartsInText s) (t : String) : StartsInText (s ++ t) := by
  obtain ⟨c, first, text⟩ := starts
  exact ⟨c, by rw [String.toList_append, List.head?_append, first, Option.some_or], text⟩

theorem EndsInText.intercalate {sep : String} {texts : List String} (some : texts ≠ [])
    (ends : ∀ t ∈ texts, EndsInText t) : EndsInText (sep.intercalate texts) := by
  induction texts with
  | nil => exact absurd rfl some
  | cons t rest ih =>
    cases rest with
    | nil => simpa using ends t List.mem_cons_self
    | cons u rest =>
      rw [String.intercalate_cons_cons]
      exact (ih (by simp) (List.forall_mem_cons.mp ends).2).append _

theorem getLast?_dropBlankEnd {c : Char} (member : c ∈ cs) (text : isBlank c = false) :
    ∃ d, (dropBlankEnd cs).getLast? = some d ∧ isBlank d = false := by
  have some_left : cs.rdropWhile isBlank ≠ [] := by
    rw [Ne, List.rdropWhile_eq_nil_iff]
    intro all
    rw [all c member] at text
    cases text
  exact ⟨_, List.getLast?_eq_some_getLast some_left, by
    simpa using List.rdropWhile_last_not isBlank cs some_left⟩

theorem endsInText_trimEnd {c : Char} (member : c ∈ s.toList) (text : isBlank c = false) :
    EndsInText (trimEnd s) := by
  rw [EndsInText, trimEnd, String.toList_ofList]
  exact getLast?_dropBlankEnd member text

theorem trimEnd_of_endsInText (ends : EndsInText s) : trimEnd s = s := by
  obtain ⟨c, last, text⟩ := ends
  have whole : s.toList.rdropWhile isBlank = s.toList := by
    rw [List.rdropWhile_eq_self_iff]
    intro some
    rw [List.getLast?_eq_some_getLast some] at last
    rw [Option.some.inj last, text]
    exact Bool.false_ne_true
  exact (congrArg String.ofList whole).trans String.ofList_toList

theorem head?_dropBlankEnd {c : Char} (first : cs.head? = some c) (text : isBlank c = false) :
    (dropBlankEnd cs).head? = some c := by
  obtain ⟨d, last, _⟩ := getLast?_dropBlankEnd (List.mem_of_head? first) text
  have front : dropBlankEnd cs <+: cs := List.rdropWhile_prefix isBlank cs
  obtain ⟨rest, whole⟩ := front
  cases left : dropBlankEnd cs with
  | nil =>
    rw [left] at last
    cases last
  | cons e others =>
    rw [← whole, left] at first
    exact first

theorem StartsInText.trimEnd (starts : StartsInText s) : StartsInText (trimEnd s) := by
  obtain ⟨c, first, text⟩ := starts
  exact ⟨c, by rw [Text.trimEnd, String.toList_ofList, head?_dropBlankEnd first text], text⟩

theorem startsInText_trim {c : Char} (member : c ∈ s.toList) (text : isBlank c = false) :
    StartsInText (trim s) := by
  have some_left : dropBlank s.toList ≠ [] := by
    intro none
    rw [List.dropWhile_eq_nil_iff.mp none c member] at text
    cases text
  have first : isBlank ((dropBlank s.toList).head some_left) = false :=
    List.head_dropWhile_not isBlank some_left
  refine ⟨_, ?_, first⟩
  rw [trim, String.toList_ofList, trimBlank,
    head?_dropBlankEnd (List.head?_eq_some_head some_left) first]

end

end TaskSynth.Text
