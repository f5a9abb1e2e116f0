import TaskSynth.Proofs.Binding.Literal

namespace TaskSynth.Binding.Literal

/-- The character with the number that so many hexadecimal digits give, encoded. -/
def codePoint? (count : Nat) (cs : List Char) : Option (List UInt8 × List Char) :=
  (Decimal.numeral? 16 count cs).bind fun (n, rest) =>
    if n.isValidChar then some (String.utf8EncodeChar (Char.ofNat n), rest) else none

/-- What the escape after a backslash stands for, and the characters after it. -/
def escape? : List Char → Option (List UInt8 × List Char)
  | [] => none
  | c :: cs =>
    match signs.lookup c with
    | some octet => some ([octet], cs)
    | none =>
      if c = 'x' then (Decimal.numeral? 16 2 cs).map fun (n, rest) => ([.ofNat n], rest)
      else if c = 'u' then codePoint? 4 cs
      else if c = 'U' then codePoint? 8 cs
      else (Decimal.numeral? 8 3 (c :: cs)).bind fun (n, rest) =>
        if n < 256 then some ([.ofNat n], rest) else none

section

variable {c : Char} {b : UInt8} {count : Nat} {cs es rest body : List Char}
  {octets bs : List UInt8}

theorem codePoint?_eq_some_iff :
    codePoint? count cs = some (octets, rest) ↔
      ∃ ds c, ds.length = count ∧ Decimal.natural? 16 ds = some (Char.toNat c) ∧
        cs = ds ++ rest ∧ octets = String.utf8EncodeChar c := by
  unfold codePoint?
  constructor
  · intro read
    obtain ⟨⟨n, after⟩, numeral, found⟩ := Option.bind_eq_some_iff.mp read
    obtain ⟨ds, length, value, rfl⟩ := Decimal.numeral?_eq_some_iff.mp numeral
    obtain ⟨valid, same⟩ := Option.ite_none_right_eq_some.mp found
    cases same
    refine ⟨ds, Char.ofNat n, length, ?_, rfl, rfl⟩
    rw [value, Decimal.toNat_ofNat valid]
  · rintro ⟨ds, c, length, value, rfl, rfl⟩
    have numeral : Decimal.numeral? 16 count (ds ++ rest) = some (c.toNat, rest) :=
      Decimal.numeral?_eq_some_iff.mpr ⟨ds, length, value, rfl⟩
    simp only [numeral, Option.bind_some, Char.ofNat_toNat]
    exact if_pos c.valid

theorem mem_signs_of_lookup (known : signs.lookup c = some b) : (c, b) ∈ signs := by
  obtain ⟨before, after, same, _⟩ := List.lookup_eq_some_iff.mp known
  rw [same]
  exact List.mem_append_right before List.mem_cons_self

theorem lookup_signs : ∀ sign ∈ signs, signs.lookup sign.1 = some sign.2 := by decide

theorem lookup_signs_of_digit {d : Nat} (digit : Decimal.digitIn? 8 c = some d) :
    signs.lookup c = none ∧ c ≠ 'x' ∧ c ≠ 'u' ∧ c ≠ 'U' := by
  have noDigit : ∀ sign ∈ signs, Decimal.digitIn? 8 sign.1 = none := by decide
  refine ⟨?_, ?_, ?_, ?_⟩
  · cases found : signs.lookup c with
    | none => rfl
    | some b =>
      rw [noDigit _ (mem_signs_of_lookup found)] at digit
      cases digit
  all_goals
    rintro rfl
    revert digit
    exact Option.some_ne_none d ∘ Eq.symm

theorem escape?_append (escape : Escape es octets) (rest : List Char) :
    escape? (es ++ rest) = some (octets, rest) := by
  cases escape with
  | @sign c b known =>
    simp only [List.singleton_append, escape?, lookup_signs _ known]
  | @octal ds n length value octet =>
    obtain ⟨c, others, rfl⟩ := List.exists_cons_of_length_eq_add_one length
    obtain ⟨d, digit⟩ := Decimal.digitIn?_of_natural? List.mem_cons_self value
    obtain ⟨noSign, noX, noShort, noLong⟩ := lookup_signs_of_digit digit
    have numeral : Decimal.numeral? 8 3 (c :: (others ++ rest)) = some (n, rest) :=
      Decimal.numeral?_eq_some_iff.mpr ⟨_, length, value, rfl⟩
    simp only [List.cons_append, escape?, noSign, noX, noShort, noLong, if_false, numeral,
      Option.bind_some, octet, if_true]
  | @hex ds n length value =>
    have numeral : Decimal.numeral? 16 2 (ds ++ rest) = some (n, rest) :=
      Decimal.numeral?_eq_some_iff.mpr ⟨_, length, value, rfl⟩
    have noSign : signs.lookup 'x' = none := by decide
    simp only [List.cons_append, escape?, noSign, if_true, numeral, Option.map_some]
  | @short ds c length value =>
    have noSign : signs.lookup 'u' = none := by decide
    have point : codePoint? 4 (ds ++ rest) = some (String.utf8EncodeChar c, rest) :=
      codePoint?_eq_some_iff.mpr ⟨ds, c, length, value, rfl, rfl⟩
    simp [escape?, noSign, point]
  | @long ds c length value =>
    have noSign : signs.lookup 'U' = none := by decide
    have point : codePoint? 8 (ds ++ rest) = some (String.utf8EncodeChar c, rest) :=
      codePoint?_eq_some_iff.mpr ⟨ds, c, length, value, rfl, rfl⟩
    simp [escape?, noSign, point]

theorem exists_escape_of_escape? (read : escape? cs = some (octets, rest)) :
    ∃ es, cs = es ++ rest ∧ Escape es octets := by
  revert read
  fun_cases escape? cs with
  | case1 => exact fun read => nomatch read
  | case2 c cs b known =>
    intro read
    cases read
    exact ⟨[c], rfl, .sign (mem_signs_of_lookup known)⟩
  | case3 cs noSign =>
    intro read
    obtain ⟨⟨n, after⟩, numeral, same⟩ := Option.map_eq_some_iff.mp read
    obtain ⟨ds, length, value, rfl⟩ := Decimal.numeral?_eq_some_iff.mp numeral
    cases same
    exact ⟨_, rfl, .hex length value⟩
  | case4 cs noSign other =>
    intro read
    obtain ⟨ds, c, length, value, rfl, rfl⟩ := codePoint?_eq_some_iff.mp read
    exact ⟨_, rfl, .short length value⟩
  | case5 cs noSign other other' =>
    intro read
    obtain ⟨ds, c, length, value, rfl, rfl⟩ := codePoint?_eq_some_iff.mp read
    exact ⟨_, rfl, .long length value⟩
  | case6 c cs noSign _ _ _ =>
    intro read
    obtain ⟨⟨n, after⟩, numeral, small⟩ := Option.bind_eq_some_iff.mp read
    obtain ⟨ds, length, value, whole⟩ := Decimal.numeral?_eq_some_iff.mp numeral
    obtain ⟨octet, same⟩ := Option.ite_none_right_eq_some.mp small
    cases same
    exact ⟨ds, whole, .octal length value octet⟩

theorem escape?_length (read : escape? cs = some (octets, rest)) : rest.length ≤ cs.length := by
  obtain ⟨es, rfl, _⟩ := exists_escape_of_escape? read
  simp

end

/-- What a literal denotes, given the characters after its opening quote. -/
def unquoteFrom : List Char → Option (List UInt8)
  | [] => none
  | c :: cs =>
    if c = '"' then if cs = [] then some [] else none
    else if c = '\n' then none
    else if c = '\\' then
      match _read : escape? cs with
      | some (octets, rest) => (unquoteFrom rest).map (octets ++ ·)
      | none => none
    else (unquoteFrom cs).map (String.utf8EncodeChar c ++ ·)
termination_by cs => cs.length
decreasing_by
  · exact Nat.lt_succ_of_le (escape?_length _read)
  · exact Nat.lt_succ_self cs.length

/-- What a literal denotes; the whole text must be one literal. -/
def unquote : List Char → Option (List UInt8)
  | '"' :: cs => unquoteFrom cs
  | _ => none

section

variable {c : Char} {cs rest body : List Char} {octets bs : List UInt8}

theorem unquoteFrom_plain (plain : Plain (fun _ => False) c) (cs : List Char) :
    unquoteFrom (c :: cs) = (unquoteFrom cs).map (String.utf8EncodeChar c ++ ·) := by
  rw [unquoteFrom, if_neg plain.quote, if_neg plain.lineEnd, if_neg plain.backslash]

theorem unquoteFrom_escape (read : escape? cs = some (octets, rest)) :
    unquoteFrom ('\\' :: cs) = (unquoteFrom rest).map (octets ++ ·) := by
  rw [unquoteFrom, if_neg (by decide), if_neg (by decide), if_pos rfl]
  split
  · next same => rw [read] at same; cases same; rfl
  · next none => rw [read] at none; cases none

theorem unquoteFrom_no_escape (noEscape : escape? cs = none) :
    unquoteFrom ('\\' :: cs) = none := by
  rw [unquoteFrom, if_neg (by decide), if_neg (by decide), if_pos rfl]
  split
  · next same => rw [noEscape] at same; cases same
  · rfl

theorem unquoteFrom_of_body (denoted : Body (fun _ => False) body bs) :
    unquoteFrom (body ++ ['"']) = some bs := by
  induction denoted with
  | nil => simp [unquoteFrom]
  | plain plain rest ih =>
    rw [List.cons_append, unquoteFrom_plain plain, ih, Option.map_some]
  | escape escape rest ih =>
    rw [List.cons_append, List.append_assoc, unquoteFrom_escape (escape?_append escape _), ih,
      Option.map_some]

theorem body_of_unquoteFrom (read : unquoteFrom cs = some bs) :
    ∃ body, cs = body ++ ['"'] ∧ Body (fun _ => False) body bs := by
  fun_induction unquoteFrom cs generalizing bs with
  | case1 => cases read
  | case2 => cases read; exact ⟨[], rfl, .nil⟩
  | case3 => cases read
  | case4 => cases read
  | case5 cs octets rest found _ _ ih =>
    obtain ⟨after, later, rfl⟩ := Option.map_eq_some_iff.mp read
    obtain ⟨es, rfl, escape⟩ := exists_escape_of_escape? found
    obtain ⟨body, rfl, denoted⟩ := ih later
    exact ⟨_, by simp, .escape escape denoted⟩
  | case6 => cases read
  | case7 c cs quote lineEnd backslash ih =>
    obtain ⟨after, later, rfl⟩ := Option.map_eq_some_iff.mp read
    obtain ⟨body, rfl, denoted⟩ := ih later
    exact ⟨c :: body, rfl, .plain ⟨quote, backslash, lineEnd, id⟩ denoted⟩

theorem unquote_eq_some_iff :
    unquote cs = some bs ↔ Denotes (fun _ => False) cs bs := by
  constructor
  · intro read
    unfold unquote at read
    split at read
    · next cs =>
      obtain ⟨body, rfl, denoted⟩ := body_of_unquoteFrom read
      exact ⟨body, rfl, denoted⟩
    · cases read
  · rintro ⟨body, rfl, denoted⟩
    exact unquoteFrom_of_body denoted

end

end TaskSynth.Binding.Literal
