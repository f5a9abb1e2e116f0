import TaskSynth.Proofs.FileTree.Growth
import TaskSynth.Proofs.FileTree.Path

namespace TaskSynth.FileTree

/-- Each file is written in turn, and no write is refused. -/
inductive Writes : FileTree → List (String × String) → FileTree → Prop where
  | nil (t : FileTree) : Writes t [] t
  | cons {t u v : FileTree} {path text : String} {rest : List (String × String)} :
      t.write path (.text text) = (u, none) → Writes u rest v → Writes t ((path, text) :: rest) v

/-- The last of the files whose path names a location. -/
def LastAt (cwd : Location) (files : List (String × String)) (l : Location) (text : String) :
    Prop :=
  ∃ front path back, files = front ++ (path, text) :: back ∧ place cwd path = l ∧
    ∀ x ∈ back, place cwd x.1 ≠ l

section

variable {t u v : FileTree} {files more : List (String × String)} {l : Location}

theorem place_join {path : String} (relative : ¬ IsAbsolute path) (cwd : Location) (dir : String) :
    place cwd (join dir path) = (Path.ofString path).names.foldl stepTo (place cwd dir) := by
  simp only [place, names_join relative, absolute_join relative, List.foldl_append]

theorem Writes.keepsDirectories (done : Writes t files u) : KeepsDirectories t u := by
  induction done with
  | nil t => exact KeepsDirectories.refl t
  | cons first _ ih => exact (written_of_write first).keeps.trans ih

theorem Writes.append (first : Writes t files u) (second : Writes u more v) :
    Writes t (files ++ more) v := by
  induction first with
  | nil => exact second
  | cons own _ ih => exact .cons own (ih second)

theorem Writes.located (done : Writes t files u) :
    ∀ x ∈ files, u.locate x.1 = .ok (place t.current x.1) ∧ endsAsDirectory x.1 = false := by
  induction done with
  | nil => simp
  | cons first later ih =>
    have written := written_of_write first
    rw [written.keeps.current] at ih
    rw [List.forall_mem_cons]
    exact ⟨⟨locate_mono later.keepsDirectories written.located, written.plain⟩, ih⟩

/-- A place holds the last file that was written there. Where no path leads, there is what was
there before, or a new directory. -/
theorem Writes.holds (done : Writes t files u) (l : Location) :
    (∃ text, LastAt t.current files l text ∧ u.find? l = some (.file (.text text))) ∨
    (∀ x ∈ files, place t.current x.1 ≠ l) ∧
      (u.find? l = t.find? l ∨ t.find? l = none ∧ u.find? l = some .directory) := by
  induction done with
  | nil t => exact Or.inr ⟨by simp, Or.inl rfl⟩
  | @cons t u v path text rest first later ih =>
    have written := written_of_write first
    rw [written.keeps.current] at ih
    rcases ih with ⟨text', ⟨front, path', back, rfl, there, last⟩, holds⟩ | ⟨absent, same⟩
    · exact Or.inl ⟨text', ⟨(path, text) :: front, path', back, rfl, there, last⟩, holds⟩
    -- No later path leads here: then this file is the last, if its own path does.
    · by_cases here : place t.current path = l
      · subst here
        refine Or.inl ⟨text, ⟨[], path, rest, rfl, rfl, absent⟩, ?_⟩
        rcases same with same | ⟨missing, _⟩
        · exact same.trans written.holds
        · cases missing.symm.trans written.holds
      · refine Or.inr ⟨List.forall_mem_cons.mpr ⟨here, absent⟩, ?_⟩
        rcases same with same | ⟨missing, made⟩
        · rw [same]
          exact written.others l (Ne.symm here)
        · rcases written.others l (Ne.symm here) with before | ⟨before, _⟩
          · exact Or.inr ⟨before.symm.trans missing, made⟩
          · exact Or.inr ⟨before, made⟩

theorem read_of_find? {path text : String} (located : t.locate path = .ok l)
    (plain : endsAsDirectory path = false) (holds : t.find? l = some (.file (.text text))) :
    t.read path = .ok text := by
  simp [read, located, holds, plain]

theorem Writes.read (done : Writes t files u) {x : String × String} (member : x ∈ files) :
    ∃ text, LastAt t.current files (place t.current x.1) text ∧ u.read x.1 = .ok text := by
  obtain ⟨located, plain⟩ := done.located x member
  rcases done.holds (place t.current x.1) with ⟨text, last, holds⟩ | ⟨absent, _⟩
  · exact ⟨text, last, read_of_find? located plain holds⟩
  · exact absurd rfl (absent x member)

theorem LastAt.text_eq {cwd : Location} {front back : List (String × String)}
    {x : String × String} {text : String}
    (last : LastAt cwd (front ++ x :: back) (place cwd x.1) text)
    (others : ∀ y ∈ back, place cwd y.1 ≠ place cwd x.1) : text = x.2 := by
  obtain ⟨front', path, back', whole, here, others'⟩ := last
  -- Of two that are last, neither can stand behind the other.
  rcases List.append_eq_append_iff.mp whole with ⟨more, -, tail⟩ | ⟨more, -, tail⟩
  · cases more with
    | nil => rw [(List.cons.inj tail).1]
    | cons y more =>
      have member : (path, text) ∈ back := by simp [(List.cons.inj tail).2]
      exact (others _ member here).elim
  · cases more with
    | nil => rw [← (List.cons.inj tail).1]
    | cons y more =>
      have member : x ∈ back' := by simp [(List.cons.inj tail).2]
      exact (others' x member rfl).elim

theorem Writes.read_last {front back : List (String × String)} {x : String × String}
    (done : Writes t (front ++ x :: back) u)
    (others : ∀ y ∈ back, place t.current y.1 ≠ place t.current x.1) : u.read x.1 = .ok x.2 := by
  obtain ⟨text, last, reads⟩ := done.read (x := x) (by simp)
  rw [reads, last.text_eq others]

/-- Files read as what was written to them unless two of them are different and share a place. -/
theorem Writes.read_own_iff (done : Writes t files u) :
    (∀ x ∈ files, u.read x.1 = .ok x.2) ↔
      ∀ x ∈ files, ∀ y ∈ files, place t.current x.1 = place t.current y.1 → x.2 = y.2 := by
  constructor
  · intro own x hx y hy same
    obtain ⟨atX, plainX⟩ := done.located x hx
    obtain ⟨atY, plainY⟩ := done.located y hy
    have reads : u.read x.1 = u.read y.1 := by
      simp only [FileTree.read, atX, atY, same, plainX, plainY]
    rw [own x hx, own y hy] at reads
    exact Except.ok.inj reads
  · intro apart x hx
    obtain ⟨text, ⟨front, path, back, whole, there, _⟩, reads⟩ := done.read hx
    have member : (path, text) ∈ files := by simp [whole]
    rw [reads, apart x hx (path, text) member there.symm]

end

end TaskSynth.FileTree
