import Mathlib.Data.List.Nodup

namespace TaskSynth.Keyed

section

variable {κ α : Type} [BEq κ] [LawfulBEq κ] {entries others : List (κ × α)} {key : κ} {a : α}

theorem lookup_cons [DecidableEq κ] (k : κ) (a : α) (rest : List (κ × α)) (key : κ) :
    ((k, a) :: rest).lookup key = if key = k then some a else rest.lookup key := by
  by_cases hit : key = k
  · rw [hit, List.lookup_cons_self, if_pos rfl]
  · have miss : (key == k) = false := beq_false_of_ne hit
    rw [List.lookup_cons, miss, if_neg hit]

theorem lookup_singleton [DecidableEq κ] (e : κ × α) (key : κ) :
    [e].lookup key = if key = e.1 then some e.2 else none :=
  lookup_cons e.1 e.2 [] key

theorem mem_of_lookup (found : entries.lookup key = some a) : (key, a) ∈ entries := by
  obtain ⟨front, back, rfl, _⟩ := List.lookup_eq_some_iff.mp found
  exact List.mem_append_right front List.mem_cons_self

theorem lookup_isSome_iff_mem :
    (entries.lookup key).isSome = true ↔ key ∈ entries.map Prod.fst := by
  simp only [List.lookup_isSome_iff, List.mem_map, beq_iff_eq, @eq_comm _ key]

theorem lookup_of_not_mem (absent : key ∉ entries.map Prod.fst) : entries.lookup key = none :=
  Option.not_isSome_iff_eq_none.mp (mt lookup_isSome_iff_mem.mp absent)

theorem lookup_eq_some_iff_mem (distinct : (entries.map Prod.fst).Nodup) :
    entries.lookup key = some a ↔ (key, a) ∈ entries := by
  refine ⟨mem_of_lookup, fun member => ?_⟩
  have keyed := lookup_isSome_iff_mem.mpr (List.mem_map_of_mem member)
  obtain ⟨b, found⟩ := Option.isSome_iff_exists.mp keyed
  have same := List.inj_on_of_nodup_map distinct (mem_of_lookup found) member rfl
  rw [found, (Prod.mk.inj same).2]

theorem lookup_of_perm (perm : entries.Perm others) (distinct : (entries.map Prod.fst).Nodup)
    (key : κ) : entries.lookup key = others.lookup key := by
  have distinct' : (others.map Prod.fst).Nodup := (perm.map Prod.fst).nodup_iff.mp distinct
  ext a
  rw [lookup_eq_some_iff_mem distinct, lookup_eq_some_iff_mem distinct', perm.mem_iff]

end

theorem lookup_map_snd {κ α β : Type} [BEq κ] (f : α → β) (entries : List (κ × α)) (key : κ) :
    (entries.map fun e => (e.1, f e.2)).lookup key = (entries.lookup key).map f := by
  induction entries with
  | nil => rfl
  | cons e rest ih =>
    obtain ⟨k, a⟩ := e
    rw [List.map_cons, List.lookup_cons, List.lookup_cons, ih]
    cases key == k <;> rfl

theorem keys_zip {κ α : Type} (keys : List κ) (values : List α) :
    (keys.zip values).map Prod.fst = keys.take values.length := by
  induction keys generalizing values with
  | nil => simp
  | cons key keys ih =>
    cases values with
    | nil => rfl
    | cons a values => simp [ih]

end TaskSynth.Keyed
