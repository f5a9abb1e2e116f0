import TaskSynth.Text.Casing

/-! Full and simple upper case. The full upper case of a character is its simple one unless it is
several characters, so the two upper cases of a text differ as soon as one character grows. -/
namespace TaskSynth.Text

/-- The upper case that takes one character for each. -/
def toSimpleUpper (s : String) : String := String.ofList (s.toList.map simpleUpper)

theorem two_le_of_special {n : Nat} {image : List Nat}
    (special : Table.upperSpecial.lookup n = some image) : 2 ≤ image.length := by
  have several : ∀ e ∈ Table.upperSpecial, 2 ≤ e.2.length := by decide
  obtain ⟨before, after, found, _⟩ := List.lookup_eq_some_iff.mp special
  have member : (n, image) ∈ Table.upperSpecial := by
    rw [found]
    exact List.mem_append_right before List.mem_cons_self
  exact several _ member

theorem upperChars_cases (c : Char) :
    upperChars c = [simpleUpper c] ∨ 2 ≤ (upperChars c).length := by
  unfold upperChars
  split
  · rename_i ascii
    exact .inl (by rw [simpleUpper, if_pos ascii])
  · split
    · rename_i image special
      exact .inr (by simpa using two_le_of_special special)
    · exact .inl rfl

theorem length_le_upper (cs : List Char) : cs.length ≤ (upper cs).length := by
  induction cs with
  | nil => exact Nat.le_refl 0
  | cons c rest ih =>
    have image : 1 ≤ (upperChars c).length := by
      obtain single | several := upperChars_cases c
      · rw [single]
        exact Nat.le_refl 1
      · omega
    rw [upper, List.flatMap_cons, List.length_append, List.length_cons]
    rw [upper] at ih
    omega

theorem upper_eq_map_iff (cs : List Char) :
    upper cs = cs.map simpleUpper ↔ ∀ c ∈ cs, (upperChars c).length = 1 := by
  induction cs with
  | nil => simp [upper]
  | cons c rest ih =>
    have whole : upper (c :: rest) = upperChars c ++ upper rest := rfl
    rw [whole, List.map_cons, List.forall_mem_cons]
    obtain single | several := upperChars_cases c
    · rw [single, List.singleton_append, List.cons_inj_right, ih]
      simp
    · -- A character that grows cannot be made up for, as no other shrinks.
      have later := length_le_upper rest
      constructor
      · intro same
        have lengths := congrArg List.length same
        rw [List.length_append, List.length_cons, List.length_map] at lengths
        omega
      · rintro ⟨one, _⟩
        omega

theorem toUpper_eq_simple_iff (s : String) :
    toUpper s = toSimpleUpper s ↔ ∀ c ∈ s.toList, (upperChars c).length = 1 := by
  rw [toUpper, toSimpleUpper, String.ofList_inj, upper_eq_map_iff]

end TaskSynth.Text
