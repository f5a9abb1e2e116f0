import TaskSynth.Text.Replace

/-! Replacing a pattern whose first character it has nowhere else. Its occurrences cannot overlap,
so a text is cut at all of them in one way only, and replacing puts the image between the pieces.
If the image starts like the pattern and does not go on like it, no new occurrence comes about. -/
namespace TaskSynth.Text

/-- At least one piece, none with the pattern in it, that the pattern between each two of them joins
to the text. -/
structure CutsAt (pattern s : List Char) (pieces : List (List Char)) : Prop where
  inhabited : pieces ≠ []
  plain : ∀ p ∈ pieces, ¬ pattern <:+: p
  joined : pattern.intercalate pieces = s

section

variable {h c : Char} {ps s t x y before after image : List Char} {pieces others : List (List Char)}

/-- Where a text starts with the pattern, the next occurrence starts behind it. -/
theorem next_occurrence (once : h ∉ ps) (same : h :: ps ++ s = x ++ (h :: ps ++ t)) :
    x = [] ∧ s = t ∨ ∃ between, x = h :: ps ++ between ∧ s = between ++ (h :: ps ++ t) := by
  rcases List.append_eq_append_iff.mp same with ⟨between, own, rest⟩ | ⟨back, own, rest⟩
  · exact .inr ⟨between, own, rest⟩
  · cases x with
    | nil =>
      rw [List.nil_append] at same
      exact .inl ⟨rfl, List.append_cancel_left same⟩
    | cons c front =>
      obtain ⟨rfl, tail⟩ := List.cons.inj own
      cases back with
      | nil =>
        have whole : h :: front = h :: ps := by rw [tail]; simp
        exact .inr ⟨[], by rw [whole, List.append_nil], rest.symm⟩
      | cons d others =>
        -- The occurrence would start inside the pattern, where its first character is not.
        obtain ⟨rfl, _⟩ := List.cons.inj rest
        exact absurd (tail ▸ List.mem_append_right front List.mem_cons_self) once

/-- Of two occurrences in a text, the later one starts behind the earlier one. -/
theorem occurrences_apart {before' after' : List Char} (once : h ∉ ps)
    (same : before ++ (h :: ps ++ after) = before' ++ (h :: ps ++ after'))
    (earlier : before.length < before'.length) :
    ∃ between, before' = before ++ (h :: ps ++ between) ∧
      after = between ++ (h :: ps ++ after') := by
  rcases List.append_eq_append_iff.mp same with ⟨more, rfl, rest⟩ | ⟨back, rfl, _⟩
  · rcases next_occurrence once rest with ⟨rfl, _⟩ | ⟨between, rfl, later⟩
    · simp at earlier
    · exact ⟨between, rfl, later⟩
  · rw [List.length_append] at earlier
    omega

/-- Behind a piece without the pattern, an occurrence is the one that ends the piece or a later
one. -/
theorem occurrence_behind (once : h ∉ ps) (plain : ¬ h :: ps <:+: x)
    (same : x ++ (h :: ps ++ s) = before ++ (h :: ps ++ after)) :
    before = x ∧ after = s ∨
      ∃ between, before = x ++ (h :: ps ++ between) ∧ s = between ++ (h :: ps ++ after) := by
  rcases List.append_eq_append_iff.mp same with ⟨more, rfl, rest⟩ | ⟨back, own, rest⟩
  · rcases next_occurrence once rest with ⟨rfl, rfl⟩ | ⟨between, rfl, later⟩
    · exact .inl ⟨List.append_nil x, rfl⟩
    · exact .inr ⟨between, rfl, later⟩
  · rcases next_occurrence once rest with ⟨rfl, rfl⟩ | ⟨between, rfl, _⟩
    · exact .inl ⟨by rw [own, List.append_nil], rfl⟩
    · exact absurd ⟨before, between, by rw [own, List.append_assoc]⟩ plain

theorem not_infix_of_plain (plain : ¬ h :: ps <:+: x) : x ≠ before ++ (h :: ps ++ after) := by
  rintro rfl
  exact plain (List.infix_append' _ _ _)

theorem intercalate_append {front back : List (List Char)} (ne : front ≠ []) (ne' : back ≠ []) :
    s.intercalate (front ++ back) = s.intercalate front ++ (s ++ s.intercalate back) := by
  induction front with
  | nil => exact absurd rfl ne
  | cons x front ih =>
    cases front with
    | nil =>
      rw [List.singleton_append, List.intercalate_cons_of_ne_nil ne', List.intercalate_singleton,
        List.append_assoc]
    | cons y front =>
      have some_left : y :: front ≠ [] := List.cons_ne_nil y front
      have some_all : y :: front ++ back ≠ [] := List.cons_ne_nil y _
      rw [List.cons_append, List.intercalate_cons_of_ne_nil some_all, ih some_left,
        List.intercalate_cons_of_ne_nil some_left]
      simp only [List.append_assoc]

theorem prefix_intercalate (sep piece : List Char) (others : List (List Char)) :
    piece <+: sep.intercalate (piece :: others) := by
  cases others with
  | nil => exact List.intercalate_singleton.symm ▸ List.prefix_refl piece
  | cons next others =>
    rw [List.intercalate_cons_cons, List.append_assoc]
    exact List.prefix_append _ _

theorem CutsAt.occurrence_iff (once : h ∉ ps) (cuts : CutsAt (h :: ps) s pieces) :
    s = before ++ (h :: ps ++ after) ↔
      ∃ front back, front ≠ [] ∧ back ≠ [] ∧ pieces = front ++ back ∧
        before = (h :: ps).intercalate front ∧ after = (h :: ps).intercalate back := by
  obtain ⟨inhabited, plain, rfl⟩ := cuts
  constructor
  · intro same
    induction pieces generalizing before with
    | nil => exact absurd rfl inhabited
    | cons x rest ih =>
      obtain ⟨own, others⟩ := List.forall_mem_cons.mp plain
      cases rest with
      | nil =>
        rw [List.intercalate_singleton] at same
        exact absurd same (not_infix_of_plain own)
      | cons y rest =>
        rw [List.intercalate_cons_cons, List.append_assoc] at same
        rcases occurrence_behind once own same with ⟨rfl, rfl⟩ | ⟨between, rfl, later⟩
        · exact ⟨[before], y :: rest, by simp, by simp, rfl, List.intercalate_singleton.symm, rfl⟩
        · obtain ⟨front, back, ne, ne', parts, rfl, rfl⟩ := ih (by simp) others later
          refine ⟨x :: front, back, by simp, ne', by rw [parts, List.cons_append], ?_, rfl⟩
          rw [List.intercalate_cons_of_ne_nil ne, List.append_assoc]
  · rintro ⟨front, back, ne, ne', rfl, rfl, rfl⟩
    exact intercalate_append ne ne'

theorem CutsAt.unique (once : h ∉ ps) (cuts : CutsAt (h :: ps) s pieces)
    (cuts' : CutsAt (h :: ps) s others) : pieces = others := by
  obtain ⟨inhabited, plain, rfl⟩ := cuts
  obtain ⟨inhabited', plain', same⟩ := cuts'
  induction pieces generalizing others with
  | nil => exact absurd rfl inhabited
  | cons x rest ih =>
    obtain ⟨own, later⟩ := List.forall_mem_cons.mp plain
    obtain ⟨y, rest', rfl⟩ := List.exists_cons_of_ne_nil inhabited'
    obtain ⟨own', later'⟩ := List.forall_mem_cons.mp plain'
    rcases rest with _ | ⟨x', rest⟩ <;> rcases rest' with _ | ⟨y', rest'⟩
    · rw [List.intercalate_singleton, List.intercalate_singleton] at same
      rw [same]
    · rw [List.intercalate_singleton, List.intercalate_cons_cons, List.append_assoc] at same
      exact absurd same.symm (not_infix_of_plain own)
    · rw [List.intercalate_singleton, List.intercalate_cons_cons, List.append_assoc] at same
      exact absurd same (not_infix_of_plain own')
    · rw [List.intercalate_cons_cons, List.intercalate_cons_cons, List.append_assoc,
        List.append_assoc] at same
      rcases occurrence_behind once own same.symm with ⟨rfl, rest_eq⟩ | ⟨between, more, _⟩
      · rw [ih (by simp) later (by simp) later' rest_eq]
      · exact absurd more (not_infix_of_plain own')

theorem replaceFrom_skip (pattern image : List Char) (skip : Nat) (s : List Char) :
    replaceFrom pattern image skip s = replaceFrom pattern image 0 (s.drop skip) := by
  induction s generalizing skip with
  | nil => cases skip <;> rfl
  | cons c rest ih =>
    cases skip with
    | zero => rfl
    | succ skip => rw [replaceFrom, ih, List.drop_succ_cons]

theorem replaceAll_append (h : Char) (ps image t : List Char) :
    replaceAll (h :: ps) image (h :: ps ++ t) = image ++ replaceAll (h :: ps) image t := by
  have occurs : (h :: ps).isPrefixOf (h :: (ps ++ t)) :=
    List.isPrefixOf_iff_prefix.mpr (List.prefix_append (h :: ps) t)
  show replaceFrom (h :: ps) image 0 (h :: (ps ++ t)) = image ++ replaceFrom (h :: ps) image 0 t
  rw [replaceFrom, if_pos occurs, replaceFrom_skip, List.length_cons, Nat.add_sub_cancel,
    List.drop_left]

theorem replaceAll_cons (other : ¬ h :: ps <+: c :: s) :
    replaceAll (h :: ps) image (c :: s) = c :: replaceAll (h :: ps) image s := by
  have noPrefix : ¬ (h :: ps).isPrefixOf (c :: s) := by
    rwa [List.isPrefixOf_iff_prefix]
  show replaceFrom (h :: ps) image 0 (c :: s) = c :: replaceFrom (h :: ps) image 0 s
  rw [replaceFrom, if_neg noPrefix]

/-- Every text is cut at the occurrences, and what is replaced is what stands between the pieces. -/
theorem exists_cutsAt (h : Char) (ps s : List Char) :
    ∃ pieces, CutsAt (h :: ps) s pieces ∧
      ∀ image, replaceAll (h :: ps) image s = image.intercalate pieces := by
  -- By the length of the text: an occurrence is passed as a whole, any other character by itself.
  by_cases occurs : h :: ps <+: s
  · obtain ⟨t, same⟩ := occurs
    have shorter : t.length < s.length := by
      rw [← same, List.length_append, List.length_cons]
      omega
    obtain ⟨pieces, ⟨inhabited, plain, joined⟩, replaced⟩ := exists_cutsAt h ps t
    subst same
    refine ⟨[] :: pieces, ⟨by simp, ?_, ?_⟩, fun image => ?_⟩
    · exact List.forall_mem_cons.mpr ⟨by simp, plain⟩
    · rw [List.intercalate_cons_of_ne_nil inhabited, joined, List.nil_append]
    · rw [replaceAll_append, replaced, List.intercalate_cons_of_ne_nil inhabited, List.nil_append]
  · cases s with
    | nil => exact ⟨[[]], ⟨by simp, by simp, rfl⟩, fun image => rfl⟩
    | cons c rest =>
      obtain ⟨pieces, ⟨inhabited, plain, joined⟩, replaced⟩ := exists_cutsAt h ps rest
      obtain ⟨piece, others, rfl⟩ := List.exists_cons_of_ne_nil inhabited
      obtain ⟨own, later⟩ := List.forall_mem_cons.mp plain
      have start : c :: piece <+: c :: rest := by
        rw [← joined, List.prefix_cons_inj]
        exact prefix_intercalate _ _ _
      have own' : ¬ h :: ps <:+: c :: piece := by
        rw [List.infix_cons_iff]
        rintro (front | inside)
        · exact occurs (front.trans start)
        · exact own inside
      refine ⟨(c :: piece) :: others, ⟨by simp, List.forall_mem_cons.mpr ⟨own', later⟩, ?_⟩,
        fun image => ?_⟩
      · rw [List.intercalate_cons_cons_left, joined]
      · rw [replaceAll_cons occurs, replaced, List.intercalate_cons_cons_left]
termination_by s.length

theorem replaceAll_of_not_infix (once : h ∉ ps) (plain : ¬ h :: ps <:+: s) :
    replaceAll (h :: ps) image s = s := by
  have whole : CutsAt (h :: ps) s [s] :=
    ⟨List.cons_ne_nil s [], by simpa using plain, List.intercalate_singleton⟩
  obtain ⟨pieces, cuts, replaced⟩ := exists_cutsAt h ps s
  rw [replaced, cuts.unique once whole, List.intercalate_singleton]

theorem infix_of_append_of_not_mem (clear : h ∉ x) (occurs : h :: ps <:+: x ++ s) :
    h :: ps <:+: s := by
  rcases List.infix_append_iff_ne_nil.mp occurs with
    inside | inside | ⟨front, back, ne, _, parts, own, _⟩
  · exact absurd (inside.subset List.mem_cons_self) clear
  · exact inside
  · obtain ⟨c, front, rfl⟩ := List.exists_cons_of_ne_nil ne
    obtain ⟨rfl, _⟩ := List.cons.inj parts
    exact absurd (own.subset List.mem_cons_self) clear

theorem not_infix_append (once : h ∉ ps) (left : ¬ h :: ps <:+: x) (right : ¬ h :: ps <:+: h :: s) :
    ¬ h :: ps <:+: x ++ h :: s := by
  intro occurs
  rcases List.infix_append_iff_ne_nil.mp occurs with
    inside | inside | ⟨front, back, ne, ne', parts, _, own⟩
  · exact left inside
  · exact right inside
  · -- Across the border, the pattern would have its first character once more.
    obtain ⟨c, front, rfl⟩ := List.exists_cons_of_ne_nil ne
    obtain ⟨d, back, rfl⟩ := List.exists_cons_of_ne_nil ne'
    obtain ⟨rfl, _⟩ := List.cons_prefix_cons.mp own
    obtain ⟨_, tail⟩ := List.cons.inj parts
    exact once (tail ▸ List.mem_append_right front List.mem_cons_self)

/-- No occurrence comes about where the image starts like the pattern, has that character nowhere
else and goes on in another way: one that starts in a piece cannot reach into the image, one that
starts with the image is not the pattern, and the rest of the image starts none. -/
theorem not_infix_intercalate {k d : Char} (once : h ∉ k :: ps) (clear : h ∉ d :: y) (other : d ≠ k)
    (plain : ∀ p ∈ pieces, ¬ h :: k :: ps <:+: p) :
    ¬ h :: k :: ps <:+: (h :: d :: y).intercalate pieces := by
  induction pieces with
  | nil => simp
  | cons x rest ih =>
    obtain ⟨own, others⟩ := List.forall_mem_cons.mp plain
    cases rest with
    | nil => rwa [List.intercalate_singleton]
    | cons z rest =>
      rw [List.intercalate_cons_cons, List.append_assoc]
      refine not_infix_append once own ?_
      rw [List.infix_cons_iff]
      rintro (start | later)
      · obtain ⟨rfl, _⟩ := List.cons_prefix_cons.mp (List.cons_prefix_cons.mp start).2
        exact other rfl
      · exact ih others (infix_of_append_of_not_mem clear later)

end

end TaskSynth.Text
