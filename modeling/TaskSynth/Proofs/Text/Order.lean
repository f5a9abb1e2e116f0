import Mathlib.Tactic.ByContra

/-! The order of texts. A smaller character has smaller octets and none is the start of another
one, so comparing texts by characters is comparing them by octets. -/
namespace TaskSynth.Text

def octets (s : String) : List UInt8 := s.toList.flatMap String.utf8EncodeChar

section

variable {c d : Char} {s t : List Char}

/-- An encoded character by the digits of its number; the first octet says how many follow. -/
theorem utf8EncodeChar_cases (c : Char) :
    let n := c.val.toNat
    n ≤ 127 ∧ String.utf8EncodeChar c = [.ofNat n] ∨
    (127 < n ∧ n ≤ 2047) ∧
      String.utf8EncodeChar c = [.ofNat (n / 64 % 32 + 192), .ofNat (n % 64 + 128)] ∨
    (2047 < n ∧ n ≤ 65535) ∧ String.utf8EncodeChar c =
      [.ofNat (n / 64 / 64 % 16 + 224), .ofNat (n / 64 % 64 + 128), .ofNat (n % 64 + 128)] ∨
    (65535 < n ∧ n < 1114112) ∧ String.utf8EncodeChar c =
      [.ofNat (n / 64 / 64 / 64 % 8 + 240), .ofNat (n / 64 / 64 % 64 + 128),
        .ofNat (n / 64 % 64 + 128), .ofNat (n % 64 + 128)] := by
  intro n
  have bound : n < 1114112 := by
    rcases c.valid with low | high
    · have : n < 55296 := low
      omega
    · exact high.2
  rw [String.utf8EncodeChar, Nat.div_div_eq_div_mul, Nat.div_div_eq_div_mul]
  by_cases one : n ≤ 127
  · exact Or.inl ⟨one, if_pos one⟩
  · by_cases two : n ≤ 2047
    · exact Or.inr (Or.inl ⟨by omega, (if_neg one).trans (if_pos two)⟩)
    · by_cases three : n ≤ 65535
      · exact Or.inr (Or.inr (Or.inl
          ⟨by omega, (if_neg one).trans ((if_neg two).trans (if_pos three))⟩))
      · exact Or.inr (Or.inr (Or.inr
          ⟨by omega, (if_neg one).trans ((if_neg two).trans (if_neg three))⟩))

theorem utf8EncodeChar_lt (less : c < d) (x y : List UInt8) :
    String.utf8EncodeChar c ++ x < String.utf8EncodeChar d ++ y := by
  have numbers : c.val.toNat < d.val.toNat := less
  rcases utf8EncodeChar_cases c with ⟨_, own⟩ | ⟨_, own⟩ | ⟨_, own⟩ | ⟨_, own⟩ <;>
    rcases utf8EncodeChar_cases d with ⟨_, other⟩ | ⟨_, other⟩ | ⟨_, other⟩ | ⟨_, other⟩ <;>
    rw [own, other] <;>
    simp only [List.cons_append, List.nil_append, List.cons_lt_cons_iff, UInt8.lt_iff_toNat_lt,
      ← UInt8.toNat_inj, UInt8.toNat_ofNat'] <;>
    omega

theorem flatMap_utf8EncodeChar_lt (less : s < t) :
    s.flatMap String.utf8EncodeChar < t.flatMap String.utf8EncodeChar := by
  induction s generalizing t with
  | nil =>
    cases t with
    | nil => exact absurd less (List.lt_irrefl _)
    | cons d rest =>
      rcases utf8EncodeChar_cases d with ⟨_, own⟩ | ⟨_, own⟩ | ⟨_, own⟩ | ⟨_, own⟩ <;>
        simp [own]
  | cons c rest ih =>
    cases t with
    | nil => exact absurd less (List.not_lt_nil _)
    | cons d others =>
      rw [List.flatMap_cons, List.flatMap_cons]
      rcases List.cons_lt_cons_iff.mp less with first | ⟨rfl, later⟩
      · exact utf8EncodeChar_lt first _ _
      · exact List.append_left_lt (ih later)

end

theorem octets_lt_iff {s t : String} : octets s < octets t ↔ s < t := by
  rw [String.lt_iff]
  constructor
  · intro less
    by_contra other
    rcases List.le_iff_lt_or_eq.mp (List.not_lt.mp other) with greater | same
    · exact absurd (flatMap_utf8EncodeChar_lt greater) (List.lt_asymm less)
    · rw [octets, octets, same] at less
      exact absurd less (List.lt_irrefl _)
  · exact flatMap_utf8EncodeChar_lt

end TaskSynth.Text
