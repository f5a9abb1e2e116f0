import TaskSynth.FileTree.Basic
import TaskSynth.Proofs.Keyed
import TaskSynth.Proofs.Outcome

/-! What a write does to a tree. It makes directories where there was nothing, and then gives one
place a file; no directory goes, so every path that led somewhere still leads there. -/
namespace TaskSynth.FileTree

open Outcome

theorem lookup_set (es : List (Location × Entry)) (l x : Location) (e : Entry) :
    (es.map fun y => if y.1 = l then (l, e) else y).lookup x =
      if x = l then (es.lookup l).map fun _ => e else es.lookup x := by
  induction es with
  | nil => simp
  | cons y rest ih =>
    obtain ⟨k, v⟩ := y
    rw [List.map_cons]
    by_cases own : k = l
    · subst own
      by_cases hit : x = k <;> simp [Keyed.lookup_cons, hit, ih]
    · rw [if_neg own, Keyed.lookup_cons, Keyed.lookup_cons, Keyed.lookup_cons, ih]
      by_cases hit : x = k
      · subst hit
        simp [own]
      · simp [hit, Ne.symm own]

theorem find?_put {t : FileTree} {l : Location} (inside : l ≠ []) (e : Entry) (x : Location) :
    (t.put l e).find? x = if x = l then some e else t.find? x := by
  cases x with
  | nil => simp [find?, inside.symm]
  | cons name outer =>
    simp only [put, find?]
    cases known : t.entries.lookup l with
    | some old => simp [lookup_set, known]
    | none =>
      simp only [Option.isSome_none, Bool.false_eq_true, if_false, List.lookup_append]
      by_cases hit : name :: outer = l
      · subst hit
        rw [known]
        simp
      · simp [Keyed.lookup_cons, hit]

/-- The location that a path names from a working directory: what lies on the way turns it nowhere
else. -/
def place (cwd : Location) (path : String) : Location :=
  (Path.ofString path).names.foldl stepTo (if (Path.ofString path).absolute then [] else cwd)

/-- What is a directory stays one. -/
structure KeepsDirectories (t u : FileTree) : Prop where
  current : u.current = t.current
  directory : ∀ l, t.find? l = some .directory → u.find? l = some .directory

structure Grows (t u : FileTree) : Prop where
  current : u.current = t.current
  kept : ∀ l e, t.find? l = some e → u.find? l = some e
  made : ∀ l, t.find? l = none → u.find? l = none ∨ u.find? l = some .directory

section

variable {t u v : FileTree} {l : Location} {path : String} {names : List String}

theorem KeepsDirectories.refl (t : FileTree) : KeepsDirectories t t := ⟨rfl, fun _ => id⟩

theorem KeepsDirectories.trans (first : KeepsDirectories t u) (second : KeepsDirectories u v) :
    KeepsDirectories t v :=
  ⟨second.current.trans first.current, fun l h => second.directory l (first.directory l h)⟩

theorem Grows.keepsDirectories (grows : Grows t u) : KeepsDirectories t u :=
  ⟨grows.current, fun l => grows.kept l _⟩

theorem Grows.refl (t : FileTree) : Grows t t := ⟨rfl, fun _ _ => id, fun _ => Or.inl⟩

theorem Grows.trans (first : Grows t u) (second : Grows u v) : Grows t v := by
  refine ⟨second.current.trans first.current, fun l e h => second.kept l e (first.kept l e h), ?_⟩
  intro l missing
  rcases first.made l missing with h | h
  · exact second.made l h
  · exact Or.inr (second.kept l _ h)

theorem grows_put (missing : t.find? l = none) : Grows t (t.put l .directory) := by
  have inside : l ≠ [] := by
    rintro rfl
    cases missing
  refine ⟨rfl, ?_, ?_⟩
  · intro x e found
    have other : x ≠ l := by
      rintro rfl
      cases missing.symm.trans found
    rw [find?_put inside, if_neg other, found]
  · intro x absent
    rw [find?_put inside]
    by_cases hit : x = l
    · exact Or.inr (if_pos hit)
    · exact Or.inl ((if_neg hit).trans absent)

/-- Places on the way may refuse a path, but do not choose where it leads. -/
theorem eq_foldl_of_walk {origin : Location} (led : t.walk origin names = .ok l) :
    l = names.foldl stepTo origin := by
  induction names generalizing origin with
  | nil => exact (Except.ok.inj led).symm
  | cons name rest ih =>
    rw [walk] at led
    split at led
    · cases led
    · cases led
    · exact ih led

theorem eq_place_of_locate (led : t.locate path = .ok l) : l = place t.current path := by
  simp only [locate, reach] at led
  split at led
  · cases led
  · split at led
    · cases led
    · exact eq_foldl_of_walk led

theorem walk_mono (keeps : KeepsDirectories t u) {start : Location}
    (led : t.walk start names = .ok l) : u.walk start names = .ok l := by
  induction names generalizing start with
  | nil => exact led
  | cons name rest ih =>
    rw [walk] at led ⊢
    cases place : t.find? start with
    | none => simp [place] at led
    | some entry =>
      cases entry with
      | file c => simp [place] at led
      | directory =>
        simp only [place] at led
        simp only [keeps.directory _ place]
        exact ih led

theorem reach_mono (keeps : KeepsDirectories t u) {absolute : Bool}
    (led : t.reach absolute names = .ok l) : u.reach absolute names = .ok l := by
  unfold reach at led ⊢
  split at led
  · cases led
  · rename_i clean
    rw [if_neg clean]
    have starts : u.start absolute = t.start absolute := by simp only [start, keeps.current]
    exact starts ▸ walk_mono keeps led

theorem locate_mono (keeps : KeepsDirectories t u) (led : t.locate path = .ok l) :
    u.locate path = .ok l := by
  simp only [locate] at led ⊢
  split at led
  · cases led
  · rename_i named
    rw [if_neg named]
    exact reach_mono keeps led

theorem makeDirectory_grows {absolute : Bool} (made : t.makeDirectory absolute names = .ok u) :
    Grows t u := by
  simp only [makeDirectory, bind_eq_ok_iff] at made
  obtain ⟨l, _, made⟩ := made
  split at made
  · cases made
  · rename_i missing
    split at made
    · cases made
    · cases made
      exact grows_put missing

theorem ensureDirectory_grows (t : FileTree) (absolute : Bool) (names : List String) :
    Grows t (t.ensureDirectory absolute names).1 := by
  unfold ensureDirectory
  split
  · rename_i made
    exact makeDirectory_grows made
  · exact Grows.refl t

theorem makeDirectories_grows (t : FileTree) (absolute : Bool) (names : List String) :
    Grows t (t.makeDirectories absolute names).1 := by
  induction names with
  | nil => exact Grows.refl t
  | cons name outer ih =>
    rw [makeDirectories]
    split
    · split
      · rename_i made
        rw [made] at ih
        exact ih.trans (ensureDirectory_grows _ _ _)
      · rename_i failed
        rw [failed] at ih
        exact ih
    · exact ensureDirectory_grows _ _ _

/-- A file has been written: its path leads to a place that holds it, and elsewhere there is what
was there before, or a new directory. -/
structure Written (t : FileTree) (path : String) (c : Content) (u : FileTree) : Prop where
  located : u.locate path = .ok (place t.current path)
  plain : endsAsDirectory path = false
  holds : u.find? (place t.current path) = some (.file c)
  keeps : KeepsDirectories t u
  others : ∀ x, x ≠ place t.current path →
    u.find? x = t.find? x ∨ t.find? x = none ∧ u.find? x = some .directory

/-- A content that is the front of another one, and not all of it. -/
def CutOf (part c : Content) : Prop :=
  ∃ rest, rest ≠ [] ∧ c.toOctets = part.toOctets ++ rest

/-- A place that is no directory takes a file; or the file is refused, and may be cut then. -/
inductive Fills (t : FileTree) (path : String) (c : Content) : FileTree × Option Error → Prop where
  | refused (e : Error) : Fills t path c (t, some e)
  | full {l : Location} (room : Option Nat) : t.locate path = .ok l →
      t.find? l ≠ some .directory → endsAsDirectory path = false →
      Fills t path c ({ t.put l (.file c) with room := room }, none)
  | cut {l : Location} {part : Content} (room : Option Nat) : t.locate path = .ok l →
      t.find? l ≠ some .directory → endsAsDirectory path = false → t.room ≠ none → CutOf part c →
      Fills t path c ({ t.put l (.file part) with room := room }, some .noSpace)

theorem toOctets_ofOctets (bs : List UInt8) : (Content.ofOctets bs).toOctets = bs := by
  unfold Content.ofOctets String.fromUTF8?
  by_cases valid : (ByteArray.mk bs.toArray).IsValidUTF8
  · rw [dif_pos valid]
    rfl
  · rw [dif_neg valid]
    rfl

theorem cutOf_take {c : Content} {count : Nat} (short : count < c.toOctets.length) :
    CutOf (.ofOctets (c.toOctets.take count)) c := by
  refine ⟨c.toOctets.drop count, by simpa using short, ?_⟩
  rw [toOctets_ofOctets, List.take_append_drop]

theorem fills_overwrite (t : FileTree) (path : String) (c : Content) :
    Fills t path c (t.overwrite path c) := by
  unfold overwrite
  split
  · exact .refused _
  · rename_i l located
    split
    · exact .refused _
    · rename_i free
      simp only [Bool.or_eq_true, decide_eq_true_eq, not_or, Bool.not_eq_true] at free
      split
      · exact .refused _
      · unfold fill
        split
        · rename_i unlimited
          exact .full _ located free.1 free.2
        · rename_i room limited
          simp only
          split
          · exact .full _ located free.1 free.2
          · rename_i short
            have some : t.room ≠ none := limited ▸ Option.some_ne_none room
            exact .cut _ located free.1 free.2 some (cutOf_take (Nat.lt_of_not_le short))

theorem written_put {base : FileTree} {c : Content} (grows : Grows t base)
    (located : base.locate path = .ok l) (free : base.find? l ≠ some .directory)
    (plain : endsAsDirectory path = false) (room : Option Nat) :
    Written t path c { base.put l (.file c) with room := room } := by
  obtain rfl : l = place t.current path := by
    rw [eq_place_of_locate located, grows.current]
  have inside : place t.current path ≠ [] := by
    intro root
    rw [root] at free
    exact free rfl
  have found (x : Location) :
      ({ base.put (place t.current path) (.file c) with room := room } : FileTree).find? x =
        if x = place t.current path then some (.file c) else base.find? x :=
    find?_put inside (.file c) x
  -- The file takes no directory away, as none was at its place.
  have keeps : KeepsDirectories base
      { base.put (place t.current path) (.file c) with room := room } := by
    refine ⟨rfl, fun x h => ?_⟩
    have other : x ≠ place t.current path := by
      rintro rfl
      exact free h
    rw [found, if_neg other, h]
  refine ⟨locate_mono keeps located, plain, ?_, grows.keepsDirectories.trans keeps, ?_⟩
  · rw [found, if_pos rfl]
  · intro x other
    rw [found, if_neg other]
    cases before : t.find? x with
    | some e => exact Or.inl (grows.kept x e before)
    | none =>
      rcases grows.made x before with h | h
      · exact Or.inl h
      · exact Or.inr ⟨rfl, h⟩

theorem write_cases (t : FileTree) (path : String) (c : Content) :
    ∃ base, Grows t base ∧
      (t.makeDirectories (Path.ofString path).absolute (Path.ofString path).steps.reverse.tail).1 =
        base ∧
      ((∃ e, t.write path c = (base, some e)) ∨
        t.write path c = base.overwrite path c ∧ Fills base path c (base.overwrite path c)) := by
  have grows := makeDirectories_grows t (Path.ofString path).absolute
    (Path.ofString path).steps.reverse.tail
  refine ⟨_, grows, rfl, ?_⟩
  unfold write
  cases made : t.makeDirectories (Path.ofString path).absolute
      (Path.ofString path).steps.reverse.tail with
  | mk base failure =>
    cases failure with
    | some e => exact Or.inl ⟨e, by simp only [made]⟩
    | none => exact Or.inr ⟨by simp only [made], fills_overwrite base path c⟩

theorem written_of_write {c : Content} (done : t.write path c = (u, none)) :
    Written t path c u := by
  obtain ⟨base, grows, -, ⟨e, failed⟩ | ⟨same, fills⟩⟩ := write_cases t path c
  · cases done.symm.trans failed
  · rw [← same, done] at fills
    cases fills with
    | full room located free plain => exact written_put grows located free plain room

/-- A write that is refused leaves no more than directories, or a file that is cut short. -/
theorem write_error_cases {c : Content} {e : Error} (failed : t.write path c = (u, some e)) :
    Grows t u ∨ e = .noSpace ∧ ∃ part, CutOf part c ∧ Written t path part u := by
  obtain ⟨base, grows, -, ⟨e', refused⟩ | ⟨same, fills⟩⟩ := write_cases t path c
  · cases failed.symm.trans refused
    exact Or.inl grows
  · rw [← same, failed] at fills
    cases fills with
    | refused e => exact Or.inl grows
    | cut room located free plain limited part =>
      exact Or.inr ⟨rfl, _, part, written_put grows located free plain room⟩

end

end TaskSynth.FileTree
