import TaskSynth.Text.Replace

namespace TaskSynth.Text

section

variable {sep : Char} {s piece : List Char}

theorem splitAtChar_eq_splitOn (sep : Char) (s : List Char) : splitAtChar sep s = s.splitOn sep := by
  induction s with
  | nil => rfl
  | cons c rest ih =>
    obtain ⟨piece, pieces, own⟩ := List.exists_cons_of_ne_nil (List.splitOn_ne_nil sep rest)
    rw [splitAtChar, ih, List.splitOn_cons_eq_if_modifyHead, own]
    by_cases cut : c = sep <;> simp [cut]

theorem not_mem_of_mem_splitOn (member : piece ∈ s.splitOn sep) : sep ∉ piece := by
  induction s generalizing piece with
  | nil =>
    obtain rfl := List.mem_singleton.mp member
    exact List.not_mem_nil
  | cons c rest ih =>
    obtain ⟨first, others, own⟩ := List.exists_cons_of_ne_nil (List.splitOn_ne_nil sep rest)
    rw [List.splitOn_cons_eq_if_modifyHead] at member
    by_cases cut : c = sep
    · rw [if_pos (beq_iff_eq.mpr cut)] at member
      rcases List.mem_cons.mp member with rfl | later
      · exact List.not_mem_nil
      · exact ih later
    · rw [if_neg (fun same => cut (eq_of_beq same)), own, List.modifyHead_cons] at member
      rw [own] at ih
      rcases List.mem_cons.mp member with rfl | later
      · exact List.not_mem_cons_of_ne_of_not_mem (Ne.symm cut) (ih List.mem_cons_self)
      · exact ih (List.mem_cons_of_mem first later)

theorem length_splitOn (sep : Char) (s : List Char) :
    (s.splitOn sep).length = s.count sep + 1 := by
  induction s with
  | nil => rfl
  | cons c rest ih =>
    rw [List.splitOn_cons_eq_if_modifyHead, List.count_cons]
    by_cases cut : c = sep <;> simp [cut, ih]

theorem flatten_splitOn (sep : Char) (s : List Char) :
    (s.splitOn sep).flatten = s.filter (· ≠ sep) := by
  induction s with
  | nil => rfl
  | cons c rest ih =>
    obtain ⟨piece, pieces, own⟩ := List.exists_cons_of_ne_nil (List.splitOn_ne_nil sep rest)
    rw [List.splitOn_cons_eq_if_modifyHead]
    rw [own] at ih ⊢
    by_cases cut : c = sep
    · simpa [cut] using ih
    · simpa [cut] using ih

theorem intercalate_eq_iff {pieces : List (List Char)} (some : pieces ≠ [])
    (plain : ∀ p ∈ pieces, sep ∉ p) : [sep].intercalate pieces = s ↔ pieces = s.splitOn sep := by
  constructor
  · rintro rfl
    exact (List.splitOn_intercalate sep plain some).symm
  · rintro rfl
    exact List.intercalate_splitOn sep

end

end TaskSynth.Text
