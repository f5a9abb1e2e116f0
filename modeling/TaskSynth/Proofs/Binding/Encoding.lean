import TaskSynth.Proofs.Binding.Literal
import TaskSynth.Proofs.Text.Order

/-! Text and its octets. A character of ASCII is one octet and no octet of another character is in
ASCII, so what is told by octets of ASCII is told by characters. -/
namespace TaskSynth.Binding.Literal

section

variable {b : UInt8} {c : Char} {cs ds : List Char} {p : UInt8 → Bool} {q : Char → Bool}

theorem utf8_inj : utf8 cs = utf8 ds ↔ cs = ds := by
  constructor
  · intro same
    have arrays : (String.ofList cs).toByteArray = (String.ofList ds).toByteArray :=
      congrArg List.toByteArray same
    exact String.ofList_inj.mp (String.toByteArray_inj.mp arrays)
  · exact congrArg utf8

theorem fromUTF8?_utf8 (cs : List Char) :
    String.fromUTF8? (utf8 cs).toByteArray = some (String.ofList cs) := by
  rw [String.fromUTF8?]
  exact dif_pos (String.ofList cs).isValidUTF8

/-- A character of ASCII is one octet, and the octets of the others are all beyond ASCII. -/
theorem ascii_or_beyond (c : Char) :
    c.toNat < 128 ∧ String.utf8EncodeChar c = [.ofNat c.toNat] ∨
      128 ≤ c.toNat ∧ ∀ b ∈ String.utf8EncodeChar c, 128 ≤ b.toNat := by
  have number : c.val.toNat = c.toNat := rfl
  rcases Text.utf8EncodeChar_cases c with ⟨bound, own⟩ | ⟨bound, own⟩ | ⟨bound, own⟩ | ⟨bound, own⟩
  · exact .inl ⟨by omega, own⟩
  all_goals
    refine .inr ⟨by omega, ?_⟩
    rw [own]
    simp only [List.mem_cons, List.not_mem_nil, or_false, forall_eq_or_imp, forall_eq,
      UInt8.toNat_ofNat']
    omega

/-- A test of octets that says of all octets of a character what a test of characters says of
it. -/
def Follows (p : UInt8 → Bool) (q : Char → Bool) : Prop :=
  ∀ c, ∀ b ∈ String.utf8EncodeChar c, p b = q c

/-- Two tests that agree on ASCII, and say one and the same of everything beyond it. -/
theorem follows_of_ascii (beyond : Bool) (ascii : ∀ n < 128, p (.ofNat n) = q (.ofNat n))
    (octets : ∀ b, 128 ≤ b.toNat → p b = beyond) (chars : ∀ c, 128 ≤ c.toNat → q c = beyond) :
    Follows p q := by
  intro c b member
  rcases ascii_or_beyond c with ⟨small, own⟩ | ⟨large, all⟩
  · rw [own, List.mem_singleton] at member
    rw [member, ascii _ small, Char.ofNat_toNat]
  · rw [octets b (all b member), chars c large]

theorem takeWhile_utf8 (follows : Follows p q) (cs : List Char) :
    (utf8 cs).takeWhile p = utf8 (cs.takeWhile q) := by
  induction cs with
  | nil => rfl
  | cons c cs ih =>
    cases test : q c with
    | true =>
      have all : ∀ b ∈ String.utf8EncodeChar c, p b := fun b member =>
        (follows c b member).trans test
      rw [utf8_cons, List.takeWhile_append_of_pos all, ih,
        List.takeWhile_cons_of_pos test, utf8_cons]
    | false =>
      obtain ⟨b, bs, own⟩ := List.exists_cons_of_ne_nil (String.utf8EncodeChar_ne_nil (c := c))
      have first : p b = false := (follows c b (own ▸ List.mem_cons_self)).trans test
      rw [utf8_cons, own, List.cons_append]
      simp [first, test]
      rfl

theorem dropWhile_utf8 (follows : Follows p q) (cs : List Char) :
    (utf8 cs).dropWhile p = utf8 (cs.dropWhile q) := by
  have whole : (utf8 cs).takeWhile p ++ (utf8 cs).dropWhile p =
      (utf8 cs).takeWhile p ++ utf8 (cs.dropWhile q) := by
    rw [List.takeWhile_append_dropWhile, takeWhile_utf8 follows, ← utf8_append,
      List.takeWhile_append_dropWhile]
  exact List.append_cancel_left whole

/-- An octet of ASCII at the front of an encoded text is its first character. -/
theorem exists_cons_of_utf8 {d : Char} (ascii : d.toNat < 128)
    (first : (utf8 cs)[0]? = some (.ofNat d.toNat)) :
    ∃ rest, cs = d :: rest ∧ utf8 cs = .ofNat d.toNat :: utf8 rest := by
  cases cs with
  | nil => cases first
  | cons c cs =>
    have number : (UInt8.ofNat d.toNat).toNat = d.toNat := by
      rw [UInt8.toNat_ofNat']
      omega
    rcases ascii_or_beyond c with ⟨small, own⟩ | ⟨_, all⟩
    · rw [utf8_cons, own] at first ⊢
      have same := Option.some.inj first
      rw [← UInt8.toNat_inj, number, UInt8.toNat_ofNat'] at same
      have numbers : c.toNat = d.toNat := by omega
      exact ⟨cs, by rw [Char.toNat_inj.mp numbers], by rw [numbers]; rfl⟩
    · obtain ⟨b, others, own⟩ := List.exists_cons_of_ne_nil (String.utf8EncodeChar_ne_nil (c := c))
      rw [utf8_cons, own] at first
      have large := all b (own ▸ List.mem_cons_self)
      have same : b = .ofNat d.toNat := Option.some.inj first
      rw [same, number] at large
      omega

/-- A character of ASCII stands in a text where its octet stands in the encoding. -/
theorem mem_utf8_iff {d : Char} (ascii : d.toNat < 128) : .ofNat d.toNat ∈ utf8 cs ↔ d ∈ cs := by
  have number : (UInt8.ofNat d.toNat).toNat = d.toNat := by
    rw [UInt8.toNat_ofNat']
    omega
  have own (c : Char) : .ofNat d.toNat ∈ String.utf8EncodeChar c ↔ d = c := by
    rcases ascii_or_beyond c with ⟨small, octet⟩ | ⟨large, all⟩
    · rw [octet, List.mem_singleton, ← UInt8.toNat_inj, number, UInt8.toNat_ofNat',
        ← Char.toNat_inj]
      omega
    · constructor
      · intro member
        have beyond := all _ member
        omega
      · rintro rfl
        omega
  simp [utf8, own]

theorem octets_plain (quote : c ≠ '"') (backslash : c ≠ '\\') :
    ∀ b ∈ String.utf8EncodeChar c, b ≠ 34 ∧ b ≠ 92 := by
  intro b member
  rcases ascii_or_beyond c with ⟨small, own⟩ | ⟨_, all⟩
  · rw [own, List.mem_singleton] at member
    rw [← Char.toNat_inj.ne] at quote backslash
    rw [member, ← UInt8.toNat_inj.ne, ← UInt8.toNat_inj.ne, UInt8.toNat_ofNat']
    simp only [Char.reduceToNat, UInt8.reduceToNat] at quote backslash ⊢
    omega
  · have large := all b member
    constructor <;> (rintro rfl; exact absurd large (by decide))

/-- The octets after the first of a character are neither quotes nor backslashes. -/
theorem octets_after_first {bs : List UInt8} (own : String.utf8EncodeChar c = b :: bs) :
    ∀ x ∈ bs, x ≠ 34 ∧ x ≠ 92 := by
  rcases ascii_or_beyond c with ⟨_, single⟩ | ⟨_, all⟩
  · rw [own] at single
    rw [(List.cons.inj single).2]
    exact List.forall_mem_nil _
  · intro x member
    have large := all x (own ▸ List.mem_cons_of_mem b member)
    constructor <;> (rintro rfl; exact absurd large (by decide))

end

end TaskSynth.Binding.Literal
