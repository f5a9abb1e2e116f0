import Mathlib.Data.List.Infix
import TaskSynth.FileTree.Path

namespace TaskSynth.FileTree

def IsAbsolute (path : String) : Prop := path.toList.head? = some '/'

instance (path : String) : Decidable (IsAbsolute path) :=
  inferInstanceAs (Decidable (path.toList.head? = some '/'))

/-- What a path is made of: where it starts, and the steps that it takes from there. Repeated
slashes and dots on the way do not tell paths apart. -/
def components (path : String) : Bool × List String :=
  ((Path.ofString path).absolute, (Path.ofString path).steps)

/-- The names of a path that lead somewhere. -/
def stepNames (path : String) : List String :=
  (Path.ofString path).names.filter fun n => n ≠ "."

section Names

variable {c d : Char} {s : List Char}

@[simp]
theorem splitNames_slash (rest : List Char) : splitNames ('/' :: rest) = splitNames rest := by
  simp [splitNames]

theorem splitNames_before_slash (other : c ≠ '/') (rest : List Char) :
    splitNames (c :: '/' :: rest) = [c] :: splitNames rest := by
  rw [splitNames]
  simp [other]

theorem splitNames_before_name (other : c ≠ '/') (other' : d ≠ '/') (rest : List Char) :
    ∃ name names, splitNames (d :: rest) = name :: names ∧
      splitNames (c :: d :: rest) = (c :: name) :: names := by
  have named : splitNames (d :: rest) ≠ [] := by
    cases rest with
    | nil => simp [splitNames, other']
    | cons e tail =>
      simp only [splitNames, beq_iff_eq, other', if_false]
      split
      · simp
      · split <;> simp
  obtain ⟨name, names, whole⟩ := List.exists_cons_of_ne_nil named
  refine ⟨name, names, whole, ?_⟩
  rw [splitNames]
  simp [other, other', whole]

theorem splitNames_append_slash (a b : List Char) :
    splitNames (a ++ '/' :: b) = splitNames a ++ splitNames b := by
  induction a with
  | nil => simp [splitNames]
  | cons c rest ih =>
    by_cases slash : c = '/'
    · subst slash
      simpa using ih
    · cases rest with
      | nil => simp [splitNames, slash]
      | cons d tail =>
        -- A character ends a name or joins the next one, so one more is looked at.
        by_cases next : d = '/'
        · subst next
          simp only [List.cons_append, splitNames_slash] at ih
          simp only [List.cons_append, splitNames_before_slash slash, ih]
        · obtain ⟨name, names, own, joined⟩ := splitNames_before_name slash next tail
          obtain ⟨name', names', own', joined'⟩ :=
            splitNames_before_name slash next (tail ++ '/' :: b)
          rw [List.cons_append, own', own, List.cons_append] at ih
          obtain ⟨rfl, rfl⟩ := List.cons.inj ih
          simp only [List.cons_append, joined, joined']

theorem splitNames_of_plain (plain : '/' ∉ s) (named : s ≠ []) : splitNames s = [s] := by
  induction s with
  | nil => contradiction
  | cons c rest ih =>
    obtain ⟨other, clean⟩ := not_or.mp fun h => plain (List.mem_cons.mpr h)
    cases rest with
    | nil => simp [splitNames, Ne.symm other]
    | cons d tail =>
      have next : d ≠ '/' := fun h => clean (h ▸ List.mem_cons_self)
      obtain ⟨name, names, own, joined⟩ := splitNames_before_name (Ne.symm other) next tail
      obtain ⟨rfl, rfl⟩ := List.cons.inj (own.symm.trans (ih clean (by simp)))
      exact joined

theorem splitNames_append (plain : '/' ∉ s) (named : s ≠ []) (cs : List Char) :
    ∃ front start, splitNames (cs ++ s) = front ++ [start ++ s] := by
  induction cs with
  | nil => exact ⟨[], [], splitNames_of_plain plain named⟩
  | cons c rest ih =>
    obtain ⟨front, start, whole⟩ := ih
    by_cases slash : c = '/'
    · subst slash
      exact ⟨front, start, by simpa using whole⟩
    · cases tail : rest ++ s with
      | nil => simp_all
      | cons d more =>
        rw [tail] at whole
        rw [List.cons_append, tail]
        by_cases next : d = '/'
        · subst next
          rw [splitNames_slash] at whole
          exact ⟨[c] :: front, start, by rw [splitNames_before_slash slash, whole]; rfl⟩
        · obtain ⟨name, names, own, joined⟩ := splitNames_before_name slash next more
          rw [own] at whole
          rw [joined]
          -- Only a character of the last name moves what stands before the end.
          cases front with
          | nil =>
            obtain ⟨rfl, rfl⟩ := List.cons.inj whole
            exact ⟨[], c :: start, rfl⟩
          | cons first others =>
            obtain ⟨rfl, rfl⟩ := List.cons.inj whole
            exact ⟨(c :: name) :: others, start, rfl⟩

theorem stepNames_append {suffix : String} (plain : '/' ∉ suffix.toList) (named : suffix ≠ "")
    (undotted : suffix ≠ ".") (name : String) :
    ∃ front start, stepNames (name ++ suffix) = front ++ [start ++ suffix] := by
  have some : suffix.toList ≠ [] := by simpa using named
  obtain ⟨front, start, whole⟩ := splitNames_append plain some name.toList
  have kept : String.ofList start ++ suffix ≠ "." := by
    intro dot
    have chars : start ++ suffix.toList = ['.'] := by simpa using congrArg String.toList dot
    rcases List.append_eq_singleton_iff.mp chars with ⟨_, all⟩ | ⟨_, none⟩
    · exact undotted (String.toList_inj.mp all)
    · exact some none
  refine ⟨(front.map String.ofList).filter (· ≠ "."), String.ofList start, ?_⟩
  simp [stepNames, Path.ofString, whole, kept]

theorem stepNames_of_plain {name : String} (plain : '/' ∉ name.toList) (named : name ≠ "")
    (undotted : name ≠ ".") : stepNames name = [name] := by
  have some : name.toList ≠ [] := by simpa using named
  simp [stepNames, Path.ofString, splitNames_of_plain plain some, undotted]

end Names

section Join

variable {dir path : String}

theorem join_of_isAbsolute (absolute : IsAbsolute path) (dir : String) : join dir path = path := by
  have start : path.toList.head? = some '/' := absolute
  simp [join, start]

theorem toList_join (relative : ¬ IsAbsolute path) (dir : String) :
    dir = "" ∧ join dir path = path ∨
    (∃ front, dir.toList = front ++ ['/'] ∧
      (join dir path).toList = front ++ '/' :: path.toList) ∨
    dir.toList ≠ [] ∧ (join dir path).toList = dir.toList ++ '/' :: path.toList := by
  have start : ¬ path.toList.head? = some '/' := relative
  by_cases empty : dir = ""
  · subst empty
    exact Or.inl ⟨rfl, by simp [join, start]⟩
  · by_cases ended : dir.toList.getLast? = some '/'
    · obtain ⟨front, closed⟩ := List.getLast?_eq_some_iff.mp ended
      exact Or.inr (Or.inl ⟨front, closed, by simp [join, start, empty, closed]⟩)
    · exact Or.inr (Or.inr ⟨by simpa using empty, by simp [join, start, empty, ended]⟩)

theorem splitNames_join (relative : ¬ IsAbsolute path) (dir : String) :
    splitNames (join dir path).toList = splitNames dir.toList ++ splitNames path.toList := by
  rcases toList_join relative dir with ⟨rfl, joined⟩ | ⟨front, closed, joined⟩ | ⟨_, joined⟩
  · simp [joined, splitNames]
  · rw [joined, closed, splitNames_append_slash, splitNames_append_slash]
    simp [splitNames]
  · rw [joined, splitNames_append_slash]

theorem isAbsolute_join (relative : ¬ IsAbsolute path) (dir : String) :
    IsAbsolute (join dir path) ↔ IsAbsolute dir := by
  rcases toList_join relative dir with ⟨rfl, joined⟩ | ⟨front, closed, joined⟩ | ⟨some, joined⟩
  · rw [joined]
    simpa [IsAbsolute] using relative
  · cases front <;> simp [IsAbsolute, joined, closed]
  · obtain ⟨c, rest, spelt⟩ := List.exists_cons_of_ne_nil some
    simp [IsAbsolute, joined, spelt]

theorem Path.steps_append {p q : Path} {more : List String} (starts : q.absolute = p.absolute)
    (names : q.names = p.names ++ more) (undotted : more.head? ≠ some ".") :
    q.steps = p.steps ++ more.filter (· ≠ ".") := by
  obtain ⟨absolute, own, _⟩ := p
  simp only [Path.steps, starts, names]
  cases absolute with
  | true => simp
  | false =>
    cases own with
    | nil =>
      simp only [List.nil_append]
      split
      · simp at undotted
      · simp
    | cons name rest =>
      by_cases dot : name = "."
      · subst dot
        simp
      · simp [dot]

theorem absolute_join (relative : ¬ IsAbsolute path) (dir : String) :
    (Path.ofString (join dir path)).absolute = (Path.ofString dir).absolute := by
  have h := isAbsolute_join relative dir
  simp only [IsAbsolute] at h
  simp [Path.ofString, h]

theorem names_join (relative : ¬ IsAbsolute path) (dir : String) :
    (Path.ofString (join dir path)).names =
      (Path.ofString dir).names ++ (Path.ofString path).names := by
  simp [Path.ofString, splitNames_join relative]

theorem components_join (relative : ¬ IsAbsolute path)
    (undotted : (Path.ofString path).names.head? ≠ some ".") (dir : String) :
    components (join dir path) = ((components dir).1, (components dir).2 ++ stepNames path) := by
  have starts := absolute_join relative dir
  have names := names_join relative dir
  simp only [components, starts, Path.steps_append starts names undotted, stepNames]

theorem components_of_isAbsolute (absolute : IsAbsolute path) :
    components path = (true, stepNames path) := by
  have start : path.toList.head? = some '/' := absolute
  simp [components, Path.steps, stepNames, Path.ofString, start]

end Join

end TaskSynth.FileTree
