import Mathlib.Data.List.Infix
import TaskSynth.Proofs.FileTree.Path

/-! Paths resolved by their text alone: a step to the parent takes back the name before it. A path
that is joined to a directory lies below it unless its steps lead out of where they start. -/
namespace TaskSynth.FileTree

/-- One step, given the names that are left so far, the last one first. The root has no parent;
where a relative path starts the parents add up. -/
def resolveStep (absolute : Bool) (stack : List String) (name : String) : List String :=
  if name = "." then stack
  else if name = ".." then
    match stack with
    | [] => if absolute then [] else [".."]
    | top :: rest => if top = ".." then ".." :: top :: rest else rest
  else name :: stack

def resolve (absolute : Bool) (stack names : List String) : List String :=
  names.foldl (resolveStep absolute) stack

/-- Where a path leads by its text: whether it starts at the root, and its names without dots and
without names that are taken back. -/
def resolved (path : String) : Bool × List String :=
  let p := Path.ofString path
  (p.absolute, (resolve p.absolute [] p.names).reverse)

/-- A path that is resolved to another one and at least one name more. -/
def Below (root path : String) : Prop :=
  ∃ more, more ≠ [] ∧ ".." ∉ more ∧ resolved path = ((resolved root).1, (resolved root).2 ++ more)

/-- Steps that at no point lead more than some levels above their start. -/
def Confined (depth : Nat) (steps : List String) : Prop :=
  ∀ front ∈ steps.inits, front.count ".." ≤ depth + front.countP (· ≠ "..")

instance (depth : Nat) (steps : List String) : Decidable (Confined depth steps) :=
  inferInstanceAs
    (Decidable (∀ front ∈ steps.inits, front.count ".." ≤ depth + front.countP (· ≠ "..")))

section Steps

variable {absolute : Bool} {depth : Nat} {name : String} {steps stack : List String}

theorem confined_nil (depth : Nat) : Confined depth [] := by
  simp [Confined]

theorem confined_cons_parent :
    Confined depth (".." :: steps) ↔ depth ≠ 0 ∧ Confined (depth - 1) steps := by
  have counts (front : List String) : (".." :: front).count ".." = front.count ".." + 1 ∧
      (".." :: front).countP (· ≠ "..") = front.countP (· ≠ "..") := by
    simp
  simp only [Confined, List.inits_cons, List.forall_mem_cons, List.forall_mem_map, counts]
  constructor
  · rintro ⟨_, within⟩
    have first := within [] (by simp)
    simp only [List.count_nil, List.countP_nil] at first
    refine ⟨by omega, fun front member => ?_⟩
    have own := within front member
    omega
  · rintro ⟨some, within⟩
    refine ⟨by simp, fun front member => ?_⟩
    have own := within front member
    omega

theorem confined_cons_name (down : name ≠ "..") :
    Confined depth (name :: steps) ↔ Confined (depth + 1) steps := by
  have counts (front : List String) : (name :: front).count ".." = front.count ".." ∧
      (name :: front).countP (· ≠ "..") = front.countP (· ≠ "..") + 1 := by
    simp [down]
  simp only [Confined, List.inits_cons, List.forall_mem_cons, List.forall_mem_map, counts]
  constructor
  · rintro ⟨_, within⟩ front member
    have own := within front member
    omega
  · intro within
    refine ⟨by simp, fun front member => ?_⟩
    have own := within front member
    omega

theorem confined_of_length_le (short : steps.length ≤ depth) : Confined depth steps := by
  intro front member
  have within : front.length ≤ steps.length := ((List.mem_inits front steps).mp member).length_le
  have count : front.count ".." ≤ front.length := List.count_le_length
  omega

theorem resolve_filter (absolute : Bool) (stack names : List String) :
    resolve absolute stack (names.filter (· ≠ ".")) = resolve absolute stack names := by
  induction names generalizing stack with
  | nil => rfl
  | cons name rest ih =>
    by_cases dot : name = "."
    · subst dot
      simpa [resolve, resolveStep] using ih stack
    · simpa [resolve, dot] using ih (resolveStep absolute stack name)

/-- Confined steps take back no name but their own, so they do not see what they start from. -/
theorem resolve_of_confined (undotted : "." ∉ steps) (clean : ".." ∉ stack)
    (confined : Confined stack.length steps) (base : List String) :
    resolve absolute (stack ++ base) steps = resolve absolute stack steps ++ base ∧
      ".." ∉ resolve absolute stack steps := by
  induction steps generalizing stack with
  | nil => exact ⟨rfl, clean⟩
  | cons name rest ih =>
    obtain ⟨other, others⟩ := not_or.mp (mt List.mem_cons.mpr undotted)
    by_cases up : name = ".."
    · subst up
      obtain ⟨some, within⟩ := confined_cons_parent.mp confined
      cases stack with
      | nil => contradiction
      | cons top outer =>
        obtain ⟨named, clean⟩ := not_or.mp (mt List.mem_cons.mpr clean)
        have step : resolveStep absolute (top :: outer) ".." = outer := by
          simp [resolveStep, Ne.symm named]
        have step' : resolveStep absolute (top :: outer ++ base) ".." = outer ++ base := by
          simp [resolveStep, Ne.symm named]
        simp only [resolve, List.foldl_cons, step, step']
        exact ih others clean within
    · have step (stack : List String) : resolveStep absolute stack name = name :: stack := by
        simp [resolveStep, Ne.symm other, up]
      simp only [resolve, List.foldl_cons, step]
      have own : ".." ∉ name :: stack := by simp [Ne.symm up, clean]
      exact ih others own ((confined_cons_name up).mp confined)

/-- A relative path that has left its start never comes back to it. -/
theorem getLast?_resolve (left : stack.getLast? = some "..") :
    (resolve false stack steps).getLast? = some ".." := by
  induction steps generalizing stack with
  | nil => exact left
  | cons name rest ih =>
    refine ih ?_
    obtain ⟨inner, rfl⟩ := List.getLast?_eq_some_iff.mp left
    unfold resolveStep
    split
    · exact left
    · split
      · cases inner with
        | nil => simp
        | cons top inner =>
          simp only [List.cons_append]
          split <;> simp [List.getLast?_cons]
      · simp [List.getLast?_cons]

theorem mem_resolve_of_not_confined (undotted : "." ∉ steps) (clean : ".." ∉ stack)
    (escapes : ¬ Confined stack.length steps) : ".." ∈ resolve false stack steps := by
  induction steps generalizing stack with
  | nil => exact absurd (confined_nil _) escapes
  | cons name rest ih =>
    obtain ⟨other, others⟩ := not_or.mp (mt List.mem_cons.mpr undotted)
    simp only [resolve, List.foldl_cons]
    by_cases up : name = ".."
    · subst up
      rw [confined_cons_parent] at escapes
      cases stack with
      | nil =>
        -- The step that leaves the start: from here on the parent stays at the bottom.
        have gone : resolveStep false [] ".." = [".."] := by simp [resolveStep]
        rw [gone]
        exact List.mem_of_getLast? (getLast?_resolve rfl)
      | cons top outer =>
        obtain ⟨named, clean⟩ := not_or.mp (mt List.mem_cons.mpr clean)
        have step : resolveStep false (top :: outer) ".." = outer := by
          simp [resolveStep, Ne.symm named]
        rw [step]
        exact ih others clean (by simpa using escapes)
    · have step : resolveStep false stack name = name :: stack := by
        simp [resolveStep, Ne.symm other, up]
      have own : ".." ∉ name :: stack := by simp [Ne.symm up, clean]
      rw [step]
      exact ih others own (mt (confined_cons_name up).mpr escapes)

end Steps

section Join

variable {path : String}

theorem resolved_join (relative : ¬ IsAbsolute path) (root : String) :
    resolved (join root path) = ((resolved root).1,
      (resolve (resolved root).1 (resolved root).2.reverse (stepNames path)).reverse) := by
  rw [stepNames, resolve_filter]
  simp only [resolved, absolute_join relative, names_join relative, List.reverse_reverse, resolve,
    List.foldl_append]

theorem below_join_of_confined (relative : ¬ IsAbsolute path)
    (confined : Confined 0 (stepNames path))
    (named : ∃ front last, stepNames path = front ++ [last] ∧ last ≠ "..") (root : String) :
    Below root (join root path) := by
  have undotted : "." ∉ stepNames path := by simp [stepNames]
  have start : Confined ([] : List String).length (stepNames path) := confined
  obtain ⟨apart, clean⟩ :
      resolve (resolved root).1 ([] ++ (resolved root).2.reverse) (stepNames path) =
          resolve (resolved root).1 [] (stepNames path) ++ (resolved root).2.reverse ∧
        ".." ∉ resolve (resolved root).1 [] (stepNames path) :=
    resolve_of_confined undotted (by simp) start _
  refine ⟨(resolve (resolved root).1 [] (stepNames path)).reverse, ?_, by simpa using clean, ?_⟩
  · obtain ⟨front, last, steps, down⟩ := named
    have other : last ≠ "." := by
      rintro rfl
      simp [steps] at undotted
    simp [steps, resolve, List.foldl_append, resolveStep, down, other]
  · rw [resolved_join relative, ← List.nil_append (resolved root).2.reverse, apart]
    simp

/-- A joined path lies below every root exactly when it is relative and does not lead out. Where it
does lead out, the working directory is a root that it leaves. -/
theorem forall_below_join_iff
    (named : ∃ front last, stepNames path = front ++ [last] ∧ last ≠ "..") :
    (∀ root, Below root (join root path)) ↔ ¬ IsAbsolute path ∧ Confined 0 (stepNames path) := by
  have origin : resolved "." = (false, []) := by decide
  constructor
  · intro below
    obtain ⟨more, _, clean, whole⟩ := below "."
    rw [origin] at whole
    have relative : ¬ IsAbsolute path := by
      intro absolute
      rw [join_of_isAbsolute absolute] at whole
      have start : path.toList.head? = some '/' := absolute
      have first := congrArg Prod.fst whole
      simp [resolved, Path.ofString, start] at first
    refine ⟨relative, ?_⟩
    rw [resolved_join relative, origin] at whole
    have steps : (resolve false [] (stepNames path)).reverse = more := congrArg Prod.snd whole
    by_contra escapes
    have start : ¬ Confined ([] : List String).length (stepNames path) := escapes
    apply clean
    rw [← steps, List.mem_reverse]
    exact mem_resolve_of_not_confined (by simp [stepNames]) (by simp) start
  · rintro ⟨relative, confined⟩ root
    exact below_join_of_confined relative confined named root

end Join

end TaskSynth.FileTree
