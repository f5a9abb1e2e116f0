import Mathlib.Data.List.Forall2

namespace TaskSynth.Outcome

section

variable {ε α β γ : Type}

@[simp]
theorem bind_ok (a : α) (f : α → Except ε β) : (Except.ok a >>= f) = f a := rfl

@[simp]
theorem bind_error (e : ε) (f : α → Except ε β) : (Except.error e >>= f) = .error e := rfl

@[simp]
theorem map_ok (a : α) (f : α → β) : (Except.ok a : Except ε α).map f = .ok (f a) := rfl

@[simp]
theorem map_error (e : ε) (f : α → β) : (Except.error e : Except ε α).map f = .error e := rfl

theorem map_eq_ok_iff {x : Except ε α} {f : α → β} {b : β} :
    x.map f = .ok b ↔ ∃ a, x = .ok a ∧ f a = b := by
  cases x <;> simp

theorem map_eq_error_iff {x : Except ε α} {f : α → β} {e : ε} :
    x.map f = .error e ↔ x = .error e := by
  cases x <;> simp

theorem bind_eq_ok_iff {x : Except ε α} {f : α → Except ε β} {b : β} :
    (x >>= f) = .ok b ↔ ∃ a, x = .ok a ∧ f a = .ok b := by
  cases x <;> simp

theorem bind_eq_error_iff {x : Except ε α} {f : α → Except ε β} {e : ε} :
    (x >>= f) = .error e ↔ x = .error e ∨ ∃ a, x = .ok a ∧ f a = .error e := by
  cases x <;> simp

theorem exists_eq_ok_iff {x : Except ε α} : (∃ a, x = .ok a) ↔ ∀ e, x ≠ .error e := by
  cases x <;> simp

theorem exists_of_isOk {x : Except ε α} (done : x.isOk) : ∃ a, x = .ok a := by
  cases x with
  | error e => cases done
  | ok a => exact ⟨a, rfl⟩

theorem exists_of_not_isOk {x : Except ε α} (failed : x.isOk = false) : ∃ e, x = .error e := by
  cases x with
  | error e => exact ⟨e, rfl⟩
  | ok a => cases failed

theorem exists_of_mem_left {R : α → β → Prop} {xs : List α} {ys : List β}
    (related : List.Forall₂ R xs ys) {x : α} (member : x ∈ xs) : ∃ y ∈ ys, R x y := by
  induction related with
  | nil => cases member
  | cons first _ ih =>
    rcases List.mem_cons.mp member with rfl | member
    · exact ⟨_, List.mem_cons_self, first⟩
    · obtain ⟨y, there, own⟩ := ih member
      exact ⟨y, List.mem_cons_of_mem _ there, own⟩

theorem exists_of_mem_right {R : α → β → Prop} {xs : List α} {ys : List β}
    (related : List.Forall₂ R xs ys) {y : β} (member : y ∈ ys) : ∃ x ∈ xs, R x y :=
  exists_of_mem_left related.flip member

theorem map_eq_map_of_related {R : α → β → Prop} {f : α → γ} {g : β → γ} {xs : List α}
    {ys : List β} (related : List.Forall₂ R xs ys) (same : ∀ x y, R x y → f x = g y) :
    xs.map f = ys.map g := by
  induction related with
  | nil => rfl
  | cons first _ ih => simp only [List.map_cons, same _ _ first, ih]

theorem mapM_eq_ok_iff {f : α → Except ε β} {xs : List α} {ys : List β} :
    xs.mapM f = .ok ys ↔ List.Forall₂ (fun x y => f x = .ok y) xs ys := by
  induction xs generalizing ys with
  | nil =>
    rw [List.mapM_nil, List.forall₂_nil_left_iff]
    exact ⟨fun h => (Except.ok.inj h).symm, fun h => congrArg Except.ok h.symm⟩
  | cons x xs ih =>
    simp only [List.mapM_cons, bind_eq_ok_iff, List.forall₂_cons_left_iff]
    constructor
    · rintro ⟨y, first, rest, others, whole⟩
      exact ⟨y, rest, first, ih.mp others, (Except.ok.inj whole).symm⟩
    · rintro ⟨y, rest, first, others, rfl⟩
      exact ⟨y, first, rest, ih.mpr others, rfl⟩

/-- The error of a list is that of the first element that has one. -/
theorem mapM_eq_error_iff {f : α → Except ε β} {xs : List α} {e : ε} :
    xs.mapM f = .error e ↔
      ∃ front x back, xs = front ++ x :: back ∧ (∀ y ∈ front, ∃ b, f y = .ok b) ∧
        f x = .error e := by
  induction xs with
  | nil =>
    constructor
    · intro failed
      cases failed
    · rintro ⟨front, x, back, whole, _⟩
      simp at whole
  | cons x xs ih =>
    rw [List.mapM_cons]
    cases own : f x with
    | error e' =>
      constructor
      · intro failed
        cases failed
        exact ⟨[], x, xs, rfl, by simp, own⟩
      · rintro ⟨front, y, back, whole, fine, failed⟩
        cases front with
        | nil =>
          obtain ⟨rfl, _⟩ := List.cons.inj whole
          rw [own] at failed
          cases failed
          rfl
        | cons z front =>
          obtain ⟨rfl, _⟩ := List.cons.inj whole
          obtain ⟨b, done⟩ := fine x List.mem_cons_self
          rw [own] at done
          cases done
    | ok b =>
      have tail : (Except.ok b >>= fun b => xs.mapM f >>= fun bs => pure (b :: bs)) = .error e ↔
          xs.mapM f = .error e := by
        cases xs.mapM f <;> simp [pure, Except.pure]
      rw [tail, ih]
      constructor
      · rintro ⟨front, y, back, rfl, fine, failed⟩
        refine ⟨x :: front, y, back, rfl, ?_, failed⟩
        simpa [own] using fine
      · rintro ⟨front, y, back, whole, fine, failed⟩
        cases front with
        | nil =>
          obtain ⟨rfl, _⟩ := List.cons.inj whole
          rw [own] at failed
          cases failed
        | cons z front =>
          obtain ⟨rfl, rfl⟩ := List.cons.inj whole
          exact ⟨front, y, back, rfl, fun y member => fine y (List.mem_cons_of_mem _ member),
            failed⟩

theorem exists_mapM_eq_ok_iff {f : α → Except ε β} {xs : List α} :
    (∃ ys, xs.mapM f = .ok ys) ↔ ∀ x ∈ xs, ∃ y, f x = .ok y := by
  constructor
  · rintro ⟨ys, done⟩ x member
    obtain ⟨y, _, own⟩ := exists_of_mem_left (mapM_eq_ok_iff.mp done) member
    exact ⟨y, own⟩
  · intro fine
    refine exists_eq_ok_iff.mpr fun e failed => ?_
    obtain ⟨front, x, back, rfl, _, own⟩ := mapM_eq_error_iff.mp failed
    obtain ⟨y, done⟩ := fine x (by simp)
    rw [own] at done
    cases done

end

end TaskSynth.Outcome
