import Mathlib.Tactic.SplitIfs
import TaskSynth.Proofs.Decimal.Numeral
import TaskSynth.Text.Quoted

/-! Quoted text read back. Which characters are written by their number is a choice of the
writer; whatever it is, a text between quotes is read in one way only, and ends where its quote
ends. -/
namespace TaskSynth.Text

/-- The characters after a backslash, with the character that each stands for. -/
def signs : List (Char × Char) :=
  [('"', '"'), ('\\', '\\'), ('0', '\x00'), ('t', '\t'), ('r', '\r'), ('n', '\n')]

inductive Spelling : Char → List Char → Prop where
  | plain {c : Char} : c ≠ '"' → c ≠ '\\' → Spelling c [c]
  | sign {s c : Char} : (s, c) ∈ signs → Spelling c ['\\', s]
  | number {c : Char} : Spelling c (['\\', 'u', '\x7b'] ++ hex c.toNat ++ ['\x7d'])

/-- A text as it may stand between quotes, with the quote that ends it. -/
inductive Quotation : List Char → List Char → Prop where
  | nil : Quotation [] ['"']
  | cons {c : Char} {cs s t : List Char} :
      Spelling c cs → Quotation s t → Quotation (c :: s) (cs ++ t)

/-- What has been read of a character: nothing, a backslash, the start of a number, or a part of
the number. -/
inductive Reading where
  | start | escape | brace | number (n : Nat)

/-- A text from behind its first quote to its last one, and what follows it. -/
def unquote : Reading → List Char → Option (List Char × List Char)
  | _, [] => none
  | .start, c :: rest =>
    if c = '"' then some ([], rest)
    else if c = '\\' then unquote .escape rest
    else (unquote .start rest).map (Prod.map (c :: ·) id)
  | .escape, s :: rest =>
    if s = 'u' then unquote .brace rest
    else (signs.lookup s).bind fun c => (unquote .start rest).map (Prod.map (c :: ·) id)
  | .brace, c :: rest => if c = '\x7b' then unquote (.number 0) rest else none
  | .number n, d :: rest =>
    if d = '\x7d' then (unquote .start rest).map (Prod.map (Char.ofNat n :: ·) id)
    else (Decimal.digitIn? 16 d).bind fun k => unquote (.number (16 * n + k)) rest

section

variable {c : Char} {cs s t : List Char}

theorem unquote_digits {ds : List Char} {m n : Nat}
    (value : ds.foldlM (fun n c => (Decimal.digitIn? 16 c).map (16 * n + ·)) m = some n)
    (rest : List Char) :
    unquote (.number m) (ds ++ '\x7d' :: rest) =
      (unquote .start rest).map (Prod.map (Char.ofNat n :: ·) id) := by
  induction ds generalizing m with
  | nil =>
    cases value
    simp [unquote]
  | cons d ds ih =>
    rw [List.foldlM_cons] at value
    obtain ⟨_, step, others⟩ := Option.bind_eq_some_iff.mp value
    obtain ⟨k, digit, rfl⟩ := Option.map_eq_some_iff.mp step
    -- the brace is no digit, so the number does not end before its last one
    have inside : d ≠ '\x7d' := by
      rintro rfl
      have noDigit : Decimal.digitIn? 16 '\x7d' = none := by decide
      rw [noDigit] at digit
      cases digit
    rw [List.cons_append, unquote, if_neg inside, digit, Option.bind_some]
    exact ih others

theorem unquote_spelling (spelling : Spelling c cs) (rest : List Char) :
    unquote .start (cs ++ rest) = (unquote .start rest).map (Prod.map (c :: ·) id) := by
  cases spelling with
  | plain unquoted unescaped => simp [unquote, unquoted, unescaped]
  | @sign s _ known =>
    have read : ∀ sign ∈ signs, sign.1 ≠ 'u' ∧ signs.lookup sign.1 = some sign.2 := by decide
    obtain ⟨unnumbered, found⟩ := read _ known
    simp [unquote, unnumbered, found]
  | number =>
    have digits := unquote_digits (Decimal.foldlM_toDigits c.toNat) rest
    rw [Char.ofNat_toNat] at digits
    simpa [unquote, hex] using digits

theorem unquote_quotation (quotation : Quotation s t) (rest : List Char) :
    unquote .start (t ++ rest) = some (s, rest) := by
  induction quotation with
  | nil => simp [unquote]
  | cons spelling _ ih => simp [List.append_assoc, unquote_spelling spelling, ih]

theorem spelling_quotedChar (c : Char) : Spelling c (quotedChar c) := by
  unfold quotedChar
  split_ifs with quote escape null tab back feed shown
  · exact .sign (by simp [signs, eq_of_beq quote])
  · exact .sign (by simp [signs, eq_of_beq escape])
  · exact .sign (by simp [signs, eq_of_beq null])
  · exact .sign (by simp [signs, eq_of_beq tab])
  · exact .sign (by simp [signs, eq_of_beq back])
  · exact .sign (by simp [signs, eq_of_beq feed])
  · exact .plain (by simpa using quote) (by simpa using escape)
  · exact .number

theorem quotation_quoted (s : List Char) : Quotation s (s.flatMap quotedChar ++ ['"']) := by
  induction s with
  | nil => exact .nil
  | cons c s ih =>
    rw [List.flatMap_cons, List.append_assoc]
    exact .cons (spelling_quotedChar c) ih

end

end TaskSynth.Text
