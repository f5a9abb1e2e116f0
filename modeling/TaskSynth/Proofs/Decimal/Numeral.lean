import TaskSynth.Decimal.Reading

namespace TaskSynth.Decimal

/-- The number of a numeral with `count` digits, and what follows it. -/
def numeral? (base count : Nat) (cs : List Char) : Option (Nat × List Char) :=
  if cs.length < count then none
  else (natural? base (cs.take count)).map fun n => (n, cs.drop count)

section

variable {base count n : Nat} {c : Char} {cs ds rest : List Char}

theorem numeral?_eq_some_iff :
    numeral? base count cs = some (n, rest) ↔
      ∃ ds, ds.length = count ∧ natural? base ds = some n ∧ cs = ds ++ rest := by
  unfold numeral?
  constructor
  · intro read
    split at read
    · cases read
    · next enough =>
      obtain ⟨m, value, same⟩ := Option.map_eq_some_iff.mp read
      cases same
      exact ⟨cs.take count, List.length_take_of_le (Nat.not_lt.mp enough), value,
        (List.take_append_drop count cs).symm⟩
  · rintro ⟨ds, rfl, value, rfl⟩
    rw [if_neg (by simp), List.take_left, List.drop_left, value, Option.map_some]

theorem toNat_ofNat (valid : n.isValidChar) : (Char.ofNat n).toNat = n := by
  rw [Char.ofNat, dif_pos valid]
  rfl

theorem digitIn?_lt {d : Nat} (digit : digitIn? base c = some d) : d < base := by
  unfold digitIn? at digit
  extract_lets value at digit
  obtain ⟨below, same⟩ := Option.ite_none_right_eq_some.mp digit
  exact Option.some.inj same ▸ below

theorem digitIn?_of_foldlM {m : Nat} (member : c ∈ ds)
    (value : ds.foldlM (fun n c => (digitIn? base c).map (base * n + ·)) m = some n) :
    ∃ d, digitIn? base c = some d := by
  induction ds generalizing m with
  | nil => cases member
  | cons e ds ih =>
    rw [List.foldlM_cons] at value
    obtain ⟨_, step, others⟩ := Option.bind_eq_some_iff.mp value
    rcases List.mem_cons.mp member with rfl | later
    · obtain ⟨d, digit, _⟩ := Option.map_eq_some_iff.mp step
      exact ⟨d, digit⟩
    · exact ih later others

theorem digitIn?_of_natural? (member : c ∈ ds) (value : natural? base ds = some n) :
    ∃ d, digitIn? base c = some d := by
  cases ds with
  | nil => cases member
  | cons e ds => exact digitIn?_of_foldlM member value

theorem foldlM_toDigits (n : Nat) :
    (Nat.toDigits 16 n).foldlM (fun n c => (digitIn? 16 c).map (16 * n + ·)) 0 = some n := by
  have digit : ∀ d < 16, digitIn? 16 d.digitChar = some d := by decide
  induction n using Nat.strongRecOn with
  | ind n ih =>
    by_cases short : n < 16
    · simp [Nat.toDigits_of_lt_base short, digit n short]
    · have long : 16 ≤ n := Nat.le_of_not_lt short
      have last := digit (n % 16) (Nat.mod_lt n (by decide))
      rw [Nat.toDigits_of_base_le (by decide) long, List.foldlM_append, ih (n / 16) (by omega)]
      simp [last, Nat.div_add_mod]

end

end TaskSynth.Decimal
