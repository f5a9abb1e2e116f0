import Mathlib.Data.List.Sort
import TaskSynth.Proofs.Keyed
import TaskSynth.Proofs.Text.Order
import TaskSynth.Snapshot.Basic

namespace TaskSynth.Snapshot

/-- Each name is smaller than those behind it, octet by octet. -/
def Ascending (names : List String) : Prop :=
  names.Pairwise fun a b => Text.octets a < Text.octets b

instance (names : List String) : Decidable (Ascending names) :=
  inferInstanceAs (Decidable (names.Pairwise _))

namespace Entries

/-- The values of a name; a name that is not there has none. -/
def values (entries : Entries) (name : String) : List Json.Value := (entries.lookup name).getD []

/-- The entries that count: of a repeated name the last one. -/
def lasting : Entries → Entries
  | [] => []
  | e :: rest => if e.1 ∈ rest.map Prod.fst then lasting rest else e :: lasting rest

end Entries

def RawMarkers.names (m : RawMarkers) : List String := m.entries.map Prod.fst

def RawMarkers.values (m : RawMarkers) (name : String) : List Json.Value := m.entries.values name

theorem ascending_iff {names : List String} : Ascending names ↔ names.Pairwise (· < ·) := by
  simp only [Ascending, Text.octets_lt_iff]

namespace Entries

section

variable {α : Type} {m : Entries} {name k : String}
  {vs : List Json.Value} {f : String × Json.Value → Option α}

theorem values_cons_self (name : String) (vs : List Json.Value) (m : Entries) :
    values ((name, vs) :: m) name = vs := by
  simp [values]

theorem values_cons_of_ne (other : name ≠ k) (vs : List Json.Value) (m : Entries) :
    values ((k, vs) :: m) name = m.values name := by
  simp [values, Keyed.lookup_cons, other]

theorem values_of_not_mem (absent : name ∉ m.map Prod.fst) : m.values name = [] := by
  simp [values, Keyed.lookup_of_not_mem absent]

theorem lookup_put (m : Entries) (name : String) (vs : List Json.Value) (x : String) :
    (m.put name vs).lookup x = if x = name then some vs else m.lookup x := by
  induction m with
  | nil => exact Keyed.lookup_cons name vs [] x
  | cons e rest ih =>
    obtain ⟨k, ws⟩ := e
    unfold put
    split
    · rename_i same
      subst same
      by_cases hit : x = name <;> simp [Keyed.lookup_cons, hit]
    · rename_i other
      split
      · exact Keyed.lookup_cons name vs _ x
      · by_cases hit : x = name
        · subst hit
          simp [Keyed.lookup_cons, ih, other]
        · simp [Keyed.lookup_cons, ih, hit]

theorem names_lasting {x : String} {entries : Entries} :
    x ∈ (lasting entries).map Prod.fst ↔ x ∈ entries.map Prod.fst := by
  induction entries with
  | nil => rfl
  | cons e rest ih =>
    unfold lasting
    split
    · rename_i again
      rw [ih, List.map_cons, List.mem_cons]
      exact ⟨Or.inr, fun member => member.elim (fun same => same ▸ again) id⟩
    · rw [List.map_cons, List.map_cons, List.mem_cons, List.mem_cons, ih]

theorem nodup_lasting (entries : Entries) :
    ((lasting entries).map Prod.fst).Nodup := by
  induction entries with
  | nil => exact List.nodup_nil
  | cons e rest ih =>
    unfold lasting
    split
    · exact ih
    · rename_i once
      exact List.nodup_cons.mpr ⟨mt names_lasting.mp once, ih⟩

theorem lasting_of_nodup {entries : Entries}
    (distinct : (entries.map Prod.fst).Nodup) : lasting entries = entries := by
  induction entries with
  | nil => rfl
  | cons e rest ih =>
    obtain ⟨once, others⟩ := List.nodup_cons.mp distinct
    rw [lasting, if_neg once, ih others]

theorem lookup_reverse (entries : Entries) (x : String) :
    entries.reverse.lookup x = (lasting entries).lookup x := by
  induction entries with
  | nil => rfl
  | cons e rest ih =>
    rw [List.reverse_cons, List.lookup_append, ih, Keyed.lookup_singleton, lasting]
    by_cases again : e.1 ∈ rest.map Prod.fst
    · rw [if_pos again]
      by_cases hit : x = e.1
      · have found : ((lasting rest).lookup x).isSome :=
          Keyed.lookup_isSome_iff_mem.mpr (names_lasting.mpr (hit ▸ again))
        rw [Option.or_of_isSome found]
      · rw [if_neg hit, Option.or_none]
    · rw [if_neg again]
      refine Eq.trans ?_ (Keyed.lookup_cons e.1 e.2 (lasting rest) x).symm
      by_cases hit : x = e.1
      · simp [hit, Keyed.lookup_of_not_mem (mt names_lasting.mp again)]
      · simp [hit]

theorem filterMap_all_cons (k : String) (vs : List Json.Value) (m : Entries) :
    (all ((k, vs) :: m)).filterMap f =
      (vs.filterMap fun v => f (k, v)) ++ m.all.filterMap f := by
  simp [all, List.filterMap_map]

theorem filterMap_all_of_nodup (distinct : (m.map Prod.fst).Nodup) :
    m.all.filterMap f =
      (m.map Prod.fst).flatMap fun n => (m.values n).filterMap fun v => f (n, v) := by
  induction m with
  | nil => rfl
  | cons e rest ih =>
    obtain ⟨first, others⟩ := List.nodup_cons.mp distinct
    rw [filterMap_all_cons, ih others, List.map_cons, List.flatMap_cons, values_cons_self]
    refine congrArg _ (List.flatMap_congr fun n member => ?_)
    have other : n ≠ e.1 := fun same => first (same ▸ member)
    rw [values_cons_of_ne other]

/-- Where only two names count, and none is repeated, what is found depends on which comes first. -/
theorem filterMap_all_of_two {a b : String} (different : a ≠ b)
    (distinct : (m.map Prod.fst).Nodup) (others : ∀ n, n ≠ a → n ≠ b → ∀ v, f (n, v) = none) :
    m.all.filterMap f =
      if [b, a].Sublist (m.map Prod.fst) then
        ((m.values b).filterMap fun v => f (b, v)) ++ (m.values a).filterMap fun v => f (a, v)
      else
        ((m.values a).filterMap fun v => f (a, v)) ++ (m.values b).filterMap fun v => f (b, v) := by
  induction m with
  | nil => simp [all, values]
  | cons e rest ih =>
    obtain ⟨k, vs⟩ := e
    obtain ⟨first, later⟩ := List.nodup_cons.mp distinct
    have missing {z : String} (absent : z ∉ rest.map Prod.fst) (one : z ∈ [b, a]) :
        ¬ [b, a].Sublist (rest.map Prod.fst) := fun sub => absent (sub.subset one)
    have listed : [b, a].Sublist (((k, vs) :: rest).map Prod.fst) ↔
        [b, a].Sublist (rest.map Prod.fst) ∨ b = k ∧ [a].Sublist (rest.map Prod.fst) :=
      List.cons_sublist_cons'
    rw [filterMap_all_cons, ih later]
    by_cases own : k = a
    · subst own
      have last := missing first (by simp)
      have last' := fun h => (listed.mp h).elim last fun h => different.symm h.1
      rw [if_neg last, if_neg last', values_cons_self, values_cons_of_ne different.symm,
        values_of_not_mem first]
      rfl
    · by_cases other : k = b
      · subst other
        rw [if_neg (missing first (by simp)), values_cons_self, values_cons_of_ne different,
          values_of_not_mem first]
        by_cases both : a ∈ rest.map Prod.fst
        · rw [if_pos (listed.mpr (Or.inr ⟨rfl, List.singleton_sublist.mpr both⟩))]
          simp
        · have alone := fun h => (listed.mp h).elim (missing both (by simp)) fun h =>
            both (List.singleton_sublist.mp h.2)
          rw [if_neg alone, values_of_not_mem both]
          simp
      · have none : (vs.filterMap fun v => f (k, v)) = [] :=
          List.filterMap_eq_nil_iff.mpr fun v _ => others k own other v
        have same : [b, a].Sublist (((k, vs) :: rest).map Prod.fst) ↔
            [b, a].Sublist (rest.map Prod.fst) :=
          listed.trans (or_iff_left fun h => other h.1.symm)
        rw [none, List.nil_append, values_cons_of_ne (Ne.symm own),
          values_cons_of_ne (Ne.symm other)]
        simp only [same]

/-- A value that is put in among those of its name stands somewhere among all values, which are
otherwise what they were. -/
theorem all_put_insert {front back : List Json.Value} (ordered : m.Ordered)
    (holds : m.values name = front ++ back) (v : Json.Value) :
    ∃ before after, m.all = before ++ after ∧
      (m.put name (front ++ v :: back)).all = before ++ (name, v) :: after := by
  induction m with
  | nil =>
    obtain ⟨rfl, rfl⟩ := List.append_eq_nil_iff.mp holds.symm
    exact ⟨[], [], rfl, rfl⟩
  | cons e rest ih =>
    obtain ⟨k, ws⟩ := e
    obtain ⟨first, later⟩ := List.pairwise_cons.mp ordered
    unfold put
    split
    · rename_i same
      subst same
      rw [values_cons_self] at holds
      exact ⟨front.map fun v => (name, v), (back.map fun v => (name, v)) ++ all rest,
        by simp [all, holds], by simp [all]⟩
    · rename_i other
      split
      · rename_i less
        have absent : name ∉ ((k, ws) :: rest).map Prod.fst := by
          intro member
          rcases List.mem_cons.mp member with same | member
          · exact other same
          · exact String.lt_asymm less (first name member)
        rw [values_of_not_mem absent] at holds
        obtain ⟨rfl, rfl⟩ := List.append_eq_nil_iff.mp holds.symm
        exact ⟨[], all ((k, ws) :: rest), rfl, rfl⟩
      · rw [values_cons_of_ne other] at holds
        obtain ⟨before, after, whole, inserted⟩ := ih later holds
        have split (m : Entries) : all ((k, ws) :: m) = ws.map (fun v => (k, v)) ++ m.all := rfl
        exact ⟨ws.map (fun v => (k, v)) ++ before, after, by rw [split, whole, List.append_assoc],
          by rw [split, inserted, List.append_assoc]⟩

end

end Entries

namespace RawMarkers

section

variable {α : Type} {m : RawMarkers} {names : List String} {name : String}
  {f : String × Json.Value → Option α}

theorem lookup_ofEntries (entries : Entries) (x : String) :
    (ofEntries entries).entries.lookup x = entries.reverse.lookup x := by
  -- From any map on: what is put in later is found first, and the map itself last.
  have fold (m : RawMarkers) : (entries.foldl (fun m e => m.put e.1 e.2) m).entries.lookup x =
      (entries.reverse.lookup x).or (m.entries.lookup x) := by
    induction entries generalizing m with
    | nil => rfl
    | cons e rest ih =>
      rw [List.foldl_cons, ih, put, Entries.lookup_put, List.reverse_cons, List.lookup_append,
        Keyed.lookup_singleton, Option.or_assoc]
      by_cases hit : x = e.1 <;> simp [hit]
  have whole := fold empty
  rwa [empty, List.lookup_nil, Option.or_none] at whole

theorem values_ofEntries (entries : Entries) (x : String) :
    (ofEntries entries).values x = (Entries.lasting entries).values x := by
  rw [values, Entries.values, Entries.values, lookup_ofEntries, Entries.lookup_reverse]

theorem flatMap_filter {g : String → List α} {p : String → Bool}
    (none : ∀ n ∈ names, p n = false → g n = []) :
    (names.filter p).flatMap g = names.flatMap g := by
  induction names with
  | nil => rfl
  | cons n rest ih =>
    obtain ⟨own, others⟩ := List.forall_mem_cons.mp none
    rw [List.flatMap_cons, ← ih others]
    cases kept : p n with
    | true => rw [List.filter_cons_of_pos kept, List.flatMap_cons]
    | false => rw [List.filter_cons_of_neg (by simp [kept]), own kept, List.nil_append]

theorem filterMap_all (m : RawMarkers) (ascending : Ascending names)
    (others : ∀ n ∈ m.names, n ∉ names → ∀ v, f (n, v) = none) :
    m.all.filterMap f = names.flatMap fun n => (m.values n).filterMap fun v => f (n, v) := by
  have keys : m.names.Pairwise (· < ·) := m.ordered
  -- Both lists of names are ascending, so with the names that they share they are the same.
  have shared : m.names.filter (· ∈ names) = names.filter (· ∈ m.names) := by
    refine (keys.filter _).eq_of_mem_iff ((ascending_iff.mp ascending).filter _) fun n => ?_
    simp only [List.mem_filter, decide_eq_true_eq, and_comm]
  have own : m.all.filterMap f =
      m.names.flatMap fun n => (m.values n).filterMap fun v => f (n, v) :=
    Entries.filterMap_all_of_nodup keys.nodup
  rw [own, ← flatMap_filter (p := (· ∈ names)), shared, flatMap_filter]
  · intro n _ absent
    rw [values, Entries.values_of_not_mem (of_decide_eq_false absent), List.filterMap_nil]
  · intro n member absent
    exact List.filterMap_eq_nil_iff.mpr fun v _ => others n member (of_decide_eq_false absent) v

theorem filterMap_put_insert {front back : List Json.Value} {v : Json.Value}
    (holds : m.values name = front ++ back) (none : f (name, v) = none) :
    (m.put name (front ++ v :: back)).all.filterMap f = m.all.filterMap f := by
  obtain ⟨before, after, whole, inserted⟩ := Entries.all_put_insert m.ordered holds v
  rw [all, all, put, whole, inserted, List.filterMap_append, List.filterMap_append,
    List.filterMap_cons, none]

end

end RawMarkers

end TaskSynth.Snapshot
