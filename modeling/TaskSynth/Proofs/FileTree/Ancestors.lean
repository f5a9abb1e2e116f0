import TaskSynth.Proofs.FileTree.Sequence

namespace TaskSynth.FileTree

/-- Where a part of a path leads, short of the path itself. -/
def IsAncestor (cwd : Location) (path : String) (l : Location) : Prop :=
  ∃ front back, (Path.ofString path).steps = front ++ back ∧ back ≠ [] ∧
    l = front.foldl stepTo (if (Path.ofString path).absolute then [] else cwd)

/-- The only new directories are where names lead, or some of them up to one. -/
def MakesAlong (origin : Location) (names : List String) (t u : FileTree) : Prop :=
  ∀ l, t.find? l = none → u.find? l = some .directory →
    ∃ front, front <+: names ∧ l = front.foldl stepTo origin

section

variable {t u v : FileTree} {l origin : Location} {path : String} {names longer : List String}
  {absolute : Bool}

theorem MakesAlong.refl (origin : Location) (names : List String) (t : FileTree) :
    MakesAlong origin names t t := by
  intro l missing made
  cases missing.symm.trans made

theorem MakesAlong.trans (first : MakesAlong origin names t u)
    (second : MakesAlong origin names u v) (grows : Grows t u) : MakesAlong origin names t v := by
  intro l missing made
  rcases grows.made l missing with still | before
  · exact second l still made
  · exact first l missing before

theorem MakesAlong.mono (along : MakesAlong origin names t u) (sub : names <+: longer) :
    MakesAlong origin longer t u := by
  intro l missing made
  obtain ⟨front, part, leads⟩ := along l missing made
  exact ⟨front, part.trans sub, leads⟩

theorem eq_foldl_of_reach (led : t.reach absolute names = .ok l) :
    l = names.foldl stepTo (t.start absolute) := by
  unfold reach at led
  split at led
  · cases led
  · exact eq_foldl_of_walk led

theorem makesAlong_makeDirectory (done : t.makeDirectory absolute names = .ok u) :
    MakesAlong (t.start absolute) names t u := by
  simp only [makeDirectory, Outcome.bind_eq_ok_iff] at done
  obtain ⟨place, reached, done⟩ := done
  split at done
  · cases done
  · rename_i free
    split at done
    · cases done
    cases done
    have inside : place ≠ [] := by
      rintro rfl
      cases free
    intro l missing made
    rw [find?_put inside] at made
    by_cases here : l = place
    · exact ⟨names, List.prefix_rfl, here.trans (eq_foldl_of_reach reached)⟩
    · rw [if_neg here, missing] at made
      cases made

theorem makesAlong_ensureDirectory (t : FileTree) (absolute : Bool) (names : List String) :
    MakesAlong (t.start absolute) names t (t.ensureDirectory absolute names).1 := by
  unfold ensureDirectory
  split
  · rename_i done
    exact makesAlong_makeDirectory done
  · exact MakesAlong.refl _ names t

theorem makesAlong_makeDirectories (t : FileTree) (absolute : Bool) (names : List String) :
    MakesAlong (t.start absolute) names.reverse t (t.makeDirectories absolute names).1 := by
  -- From the last name outwards: what the outer names make is on the way to the inner ones too.
  induction names with
  | nil => exact MakesAlong.refl _ _ t
  | cons name outer ih =>
    have grows := makeDirectories_grows t absolute outer
    have part : outer.reverse <+: (name :: outer).reverse := by simp
    rw [makeDirectories]
    split
    · split
      · rename_i base made
        rw [made] at ih grows
        have starts : base.start absolute = t.start absolute :=
          congrArg (fun cwd => if absolute then [] else cwd) grows.current
        exact (ih.mono part).trans (starts ▸ makesAlong_ensureDirectory base absolute _) grows
      · rename_i failed
        rw [failed] at ih
        exact ih.mono part
    · exact makesAlong_ensureDirectory t absolute _

theorem isAncestor_of_makeDirectories (missing : t.find? l = none)
    (made : (t.makeDirectories (Path.ofString path).absolute
      (Path.ofString path).steps.reverse.tail).1.find? l = some .directory) :
    IsAncestor t.current path l := by
  rcases List.eq_nil_or_concat (Path.ofString path).steps with none | ⟨way, last, steps⟩
  · rw [none] at made
    cases missing.symm.trans made
  · have outward : (Path.ofString path).steps.reverse.tail = way.reverse := by simp [steps]
    rw [outward] at made
    obtain ⟨front, ⟨more, whole⟩, leads⟩ := makesAlong_makeDirectories t _ _ l missing made
    rw [List.reverse_reverse] at whole
    exact ⟨front, more ++ [last], by simp [steps, ← whole], by simp, leads⟩

theorem directory_of_fills {c : Content} {base : FileTree} {e : Option Error}
    (fills : Fills base path c (u, e)) (made : u.find? l = some .directory) :
    base.find? l = some .directory := by
  have kept {place : Location} {part : Content} (free : base.find? place ≠ some .directory)
      (made : (base.put place (.file part)).find? l = some .directory) :
      base.find? l = some .directory := by
    have inside : place ≠ [] := by
      rintro rfl
      exact free rfl
    rw [find?_put inside] at made
    split at made
    · cases made
    · exact made
  cases fills with
  | refused e => exact made
  | full room located free plain => exact kept free made
  | cut room located free plain limited part => exact kept free made

theorem isAncestor_of_write {c : Content} (missing : t.find? l = none)
    (made : (t.write path c).1.find? l = some .directory) : IsAncestor t.current path l := by
  obtain ⟨base, -, ensured, ⟨e, failed⟩ | ⟨same, fills⟩⟩ := write_cases t path c
  · rw [failed] at made
    exact isAncestor_of_makeDirectories missing (ensured ▸ made)
  · rw [same] at made
    exact isAncestor_of_makeDirectories missing (ensured ▸ directory_of_fills fills made)

theorem Writes.made {files : List (String × String)} (done : Writes t files u)
    (missing : t.find? l = none) (made : u.find? l = some .directory) :
    ∃ x ∈ files, IsAncestor t.current x.1 l := by
  induction done with
  | nil t => cases missing.symm.trans made
  | @cons t base u path text rest first later ih =>
    have current : base.current = t.current := (written_of_write first).keeps.current
    cases between : base.find? l with
    | none =>
      obtain ⟨x, member, leads⟩ := ih between made
      exact ⟨x, List.mem_cons_of_mem _ member, current ▸ leads⟩
    | some entry =>
      cases entry with
      | directory =>
        have own : (t.write path (.text text)).1.find? l = some .directory :=
          (congrArg (·.1.find? l) first).trans between
        exact ⟨(path, text), List.mem_cons_self, isAncestor_of_write missing own⟩
      | file c =>
        -- What is a file is one afterwards, whatever is written.
        rcases later.holds l with ⟨_, _, holds⟩ | ⟨_, same | ⟨gone, _⟩⟩
        · cases holds.symm.trans made
        · cases (same.trans between).symm.trans made
        · cases gone.symm.trans between

end

end TaskSynth.FileTree
