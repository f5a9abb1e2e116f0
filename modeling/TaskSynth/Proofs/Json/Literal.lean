import Mathlib.Data.List.TakeWhile
import TaskSynth.Json.Printer
import TaskSynth.Json.Reader
import TaskSynth.Proofs.Decimal.Numeral
import TaskSynth.Proofs.Outcome

namespace TaskSynth.Json.Literal

/-- The escapes of one character, each with what it stands for. -/
def signs : List (Char × Char) :=
  [('"', '"'), ('\\', '\\'), ('/', '/'), ('b', '\x08'), ('f', '\x0c'), ('n', '\n'), ('r', '\r'),
    ('t', '\t')]

/-- The character that a leading and a trailing surrogate stand for together. -/
def paired (high low : Nat) : Char :=
  Char.ofNat (0x10000 + (high - 0xD800) * 0x400 + (low - 0xDC00))

/-- What may follow a backslash, and the character that the escape stands for. -/
inductive Escape : List Char → Char → Prop where
  | sign {c v : Char} (known : (c, v) ∈ signs) : Escape [c] v
  | unit {ds : List Char} {v : Char} (length : ds.length = 4)
      (value : Decimal.natural? 16 ds = some v.toNat) : Escape ('u' :: ds) v
  | pair {hs ls : List Char} {high low : Nat} (highLength : hs.length = 4)
      (lowLength : ls.length = 4) (highValue : Decimal.natural? 16 hs = some high)
      (lowValue : Decimal.natural? 16 ls = some low) (leading : 0xD800 ≤ high ∧ high ≤ 0xDBFF)
      (trailing : 0xDC00 ≤ low ∧ low ≤ 0xDFFF) :
      Escape ('u' :: (hs ++ '\\' :: 'u' :: ls)) (paired high low)

structure Plain (c : Char) : Prop where
  printable : 0x20 ≤ c.toNat
  quote : c ≠ '"'
  backslash : c ≠ '\\'

/-- What stands between the quotes of a literal, and what it denotes. -/
inductive Body : List Char → List Char → Prop where
  | nil : Body [] []
  | plain {c : Char} {cs vs : List Char} (plain : Plain c) (rest : Body cs vs) :
      Body (c :: cs) (c :: vs)
  | escape {es cs vs : List Char} {v : Char} (escape : Escape es v) (rest : Body cs vs) :
      Body ('\\' :: (es ++ cs)) (v :: vs)

section

variable {c v : Char} {n : Nat} {cs es ds vs rest body : List Char}

theorem natural?_four (a b c d : Char) :
    Decimal.natural? 16 [a, b, c, d] =
      (hexValue? a).bind fun w => (hexValue? b).bind fun x => (hexValue? c).bind fun y =>
        (hexValue? d).map fun z => ((w * 16 + x) * 16 + y) * 16 + z := by
  simp only [Decimal.natural?, hexValue?, List.foldlM_cons, List.foldlM_nil]
  cases Decimal.digitIn? 16 a <;> cases Decimal.digitIn? 16 b <;>
    cases Decimal.digitIn? 16 c <;> cases Decimal.digitIn? 16 d <;> simp
  omega

theorem readHex_append (length : ds.length = 4) (value : Decimal.natural? 16 ds = some n)
    (rest : List Char) : readHex (ds ++ rest) = .ok (n, rest) := by
  obtain ⟨a, b, c, d, rfl⟩ := List.length_eq_four.mp length
  rw [natural?_four] at value
  obtain ⟨w, first, others⟩ := Option.bind_eq_some_iff.mp value
  obtain ⟨x, second, others⟩ := Option.bind_eq_some_iff.mp others
  obtain ⟨y, third, last⟩ := Option.bind_eq_some_iff.mp others
  obtain ⟨z, fourth, rfl⟩ := Option.map_eq_some_iff.mp last
  simp only [readHex, List.cons_append, List.nil_append, first, second, third, fourth]

theorem digits_of_readHex (read : readHex cs = .ok (n, rest)) :
    n < 0x10000 ∧
      ∃ ds, ds.length = 4 ∧ Decimal.natural? 16 ds = some n ∧ cs = ds ++ rest := by
  unfold readHex at read
  extract_lets fault at read
  have noValue : fault ≠ .ok (n, rest) := by
    unfold fault
    split <;> exact nofun
  split at read
  · next a b c d after =>
    split at read
    · next w x y z first second third fourth =>
      cases read
      refine ⟨?_, [a, b, c, d], rfl, ?_, rfl⟩
      · have w_lt := Decimal.digitIn?_lt first
        have x_lt := Decimal.digitIn?_lt second
        have y_lt := Decimal.digitIn?_lt third
        have z_lt := Decimal.digitIn?_lt fourth
        omega
      · rw [natural?_four, first, second, third, fourth]
        rfl
    · exact absurd read noValue
  · exact absurd read noValue

theorem not_surrogate (v : Char) :
    ¬ (0xD800 ≤ v.toNat ∧ v.toNat ≤ 0xDBFF) ∧ ¬ (0xDC00 ≤ v.toNat ∧ v.toNat ≤ 0xDFFF) := by
  have valid : v.toNat.isValidChar := v.valid
  unfold Nat.isValidChar at valid
  omega

theorem readEscape_append (escape : Escape es v) (rest : List Char) :
    readEscape (es ++ rest) = .ok (v, rest) := by
  cases escape with
  | @sign c v known =>
    have all : ∀ sign ∈ signs, ∀ rest, readEscape (sign.1 :: rest) = .ok (sign.2, rest) := by
      simp [signs, readEscape]
    exact all _ known rest
  | @unit ds v length value =>
    obtain ⟨noLeading, noTrailing⟩ := not_surrogate v
    simp [readEscape, readUnicodeEscape, readHex_append length value, noLeading, noTrailing,
      Char.ofNat_toNat]
  | @pair hs ls high low highLength lowLength highValue lowValue leading trailing =>
    have first : ¬ (0xDC00 ≤ high ∧ high ≤ 0xDFFF) := by omega
    simp [readEscape, readUnicodeEscape, readHex_append highLength highValue,
      readHex_append lowLength lowValue, first, leading, trailing, paired]

theorem escape_of_readUnicodeEscape (read : readUnicodeEscape cs = .ok (v, rest)) :
    ∃ es, 'u' :: cs = es ++ rest ∧ Escape es v := by
  unfold readUnicodeEscape at read
  obtain ⟨⟨n, after⟩, hex, unit⟩ := Outcome.bind_eq_ok_iff.mp read
  obtain ⟨small, ds, length, value, rfl⟩ := digits_of_readHex hex
  dsimp only at unit
  split at unit
  · cases unit
  · next noTrailing =>
    split at unit
    · next leading =>
      split at unit
      · next tail =>
        obtain ⟨⟨low, tail⟩, lowHex, partner⟩ := Outcome.bind_eq_ok_iff.mp unit
        obtain ⟨_, ls, lowLength, lowValue, rfl⟩ := digits_of_readHex lowHex
        dsimp only at partner
        split at partner
        · next trailing =>
          obtain ⟨rfl, rfl⟩ := Prod.mk.inj (Except.ok.inj partner)
          refine ⟨'u' :: (ds ++ '\\' :: 'u' :: ls), by simp, ?_⟩
          exact .pair length lowLength value lowValue (by simpa using leading)
            (by simpa using trailing)
        · cases partner
      all_goals cases unit
    · next noLeading =>
      cases unit
      refine ⟨'u' :: ds, rfl, .unit length ?_⟩
      rw [value, Decimal.toNat_ofNat]
      simp only [Bool.and_eq_true, decide_eq_true_eq] at noTrailing noLeading
      unfold Nat.isValidChar
      omega

theorem escape_of_readEscape (read : readEscape cs = .ok (v, rest)) :
    ∃ es, cs = es ++ rest ∧ Escape es v := by
  revert read
  fun_cases readEscape cs
  case case10 after => exact escape_of_readUnicodeEscape
  case case1 => exact nofun
  case case11 => exact nofun
  all_goals
    intro read
    cases read
    exact ⟨[_], rfl, .sign (by decide)⟩

theorem natural?_control : ∀ n < 0x20,
    Decimal.natural? 16 ['0', '0', hexDigit (n / 16), hexDigit (n % 16)] = some n := by
  decide

theorem body_escapedChar_append (c : Char) (rest : Body cs vs) :
    Body (escapedChar c ++ cs) (c :: vs) := by
  have sign {d : Char} (known : (d, c) ∈ signs) : Body (['\\', d] ++ cs) (c :: vs) :=
    .escape (.sign known) rest
  unfold escapedChar
  split
  · next quote => exact sign (by rw [eq_of_beq quote]; decide)
  · next quote =>
    split
    · next backslash => exact sign (by rw [eq_of_beq backslash]; decide)
    · next backslash =>
      split
      · next printable => exact .plain ⟨printable, by simpa using quote, by simpa using backslash⟩ rest
      · next control =>
        -- Five of them have signs of their own.
        repeat
          split
          · next same => exact sign (by rw [eq_of_beq same]; decide)
        exact .escape (.unit rfl (natural?_control c.toNat (Nat.not_le.mp control))) rest

theorem body_flatMap_escapedChar (s : List Char) : Body (s.flatMap escapedChar) s := by
  induction s with
  | nil => exact .nil
  | cons c s ih =>
    rw [List.flatMap_cons]
    exact body_escapedChar_append c ih

theorem readStringFrom_of_body (denoted : Body body vs) (read rest : List Char) :
    ∀ fuel, (body ++ '"' :: rest).length ≤ fuel →
      readStringFrom read fuel (body ++ '"' :: rest) = .ok (read.reverse ++ vs, rest) := by
  induction denoted generalizing read with
  | nil =>
    intro fuel enough
    obtain ⟨fuel, rfl⟩ := Nat.exists_eq_add_of_le' (Nat.le_trans (Nat.le_add_left 1 _) enough)
    simp [readStringFrom]
  | @plain c cs vs plain _ ih =>
    intro fuel enough
    obtain ⟨fuel, rfl⟩ := Nat.exists_eq_add_of_le' (Nat.le_trans (Nat.le_add_left 1 _) enough)
    have next := ih (c :: read) fuel (Nat.le_of_succ_le_succ enough)
    simp [readStringFrom, plain.quote, plain.backslash, Nat.not_lt.mpr plain.printable, next]
  | @escape es cs vs v escape _ ih =>
    intro fuel enough
    obtain ⟨fuel, rfl⟩ := Nat.exists_eq_add_of_le' (Nat.le_trans (Nat.le_add_left 1 _) enough)
    have next := ih (v :: read) fuel (by simp at enough ⊢; omega)
    simp [readStringFrom, readEscape_append escape, next]

theorem body_of_readStringFrom {read out : List Char} {fuel : Nat}
    (done : readStringFrom read fuel cs = .ok (out, rest)) :
    ∃ body vs, cs = body ++ '"' :: rest ∧ Body body vs ∧ out = read.reverse ++ vs := by
  fun_induction readStringFrom read fuel cs with
  | case1 => cases done
  | case2 => cases done
  | case3 read fuel c cs quote =>
    cases done
    exact ⟨[], [], by simpa using quote, .nil, by simp⟩
  | case4 read fuel c cs _ backslash v after found ih =>
    obtain ⟨es, rfl, escape⟩ := escape_of_readEscape found
    obtain ⟨body, vs, rfl, denoted, rfl⟩ := ih done
    rw [eq_of_beq backslash]
    exact ⟨_, _, by simp, .escape escape denoted, by simp⟩
  | case5 => cases done
  | case6 => cases done
  | case7 read fuel c cs noQuote noBackslash printable ih =>
    obtain ⟨body, vs, rfl, denoted, rfl⟩ := ih done
    refine ⟨c :: body, c :: vs, rfl, .plain ?_ denoted, by simp⟩
    exact ⟨Nat.not_lt.mp printable, by simpa using noQuote, by simpa using noBackslash⟩

/-- Only the last quote of a text that ends in one can be followed by nothing but space. -/
theorem eq_nil_of_skipSpace {front : List Char} (same : body ++ ['"'] = front ++ '"' :: rest)
    (spaces : skipSpace rest = []) : rest = [] := by
  cases found : rest.getLast? with
  | none => exact List.getLast?_eq_none_iff.mp found
  | some last =>
    have ends := congrArg List.getLast? same
    rw [List.getLast?_concat, List.getLast?_append, List.getLast?_cons, found] at ends
    have space := List.dropWhile_eq_nil_iff.mp spaces last (List.mem_of_getLast? found)
    have quote : '"' = last := Option.some.inj ends
    exact absurd (quote ▸ space) (by decide)

/-- A text that ends in a quote is one whole literal exactly if what comes before the quote is a
body. -/
theorem whole_readString_eq_ok_iff {s : String} :
    whole readString (body ++ ['"']) = .ok s ↔ Body body s.toList := by
  constructor
  · intro done
    obtain ⟨⟨t, rest⟩, read, closed⟩ := Outcome.bind_eq_ok_iff.mp done
    obtain ⟨⟨out, rest⟩, chars, same⟩ := Outcome.bind_eq_ok_iff.mp read
    cases same
    obtain ⟨inner, vs, same, denoted, rfl⟩ := body_of_readStringFrom chars
    dsimp only at closed
    split at closed
    · next spaces =>
      cases closed
      rw [eq_nil_of_skipSpace same spaces] at same
      rw [List.append_cancel_right same]
      simpa using denoted
    · cases closed
  · intro denoted
    have read := readStringFrom_of_body denoted [] [] _ (Nat.le_refl _)
    simp only [whole, readString, read, Outcome.bind_ok, List.reverse_nil, List.nil_append,
      String.ofList_toList]
    rfl

end

end TaskSynth.Json.Literal
