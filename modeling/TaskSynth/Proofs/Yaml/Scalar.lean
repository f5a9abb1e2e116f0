import TaskSynth.Proofs.Decimal.Numeral
import TaskSynth.Yaml.Scalar
import TaskSynth.Yaml.Token.Block
import TaskSynth.Yaml.Token.Quoted

/-! The lines of a scalar, read back. However a text is written, it is there to be read: as it
stands, between quotes, or as a block of lines. -/
namespace TaskSynth.Yaml

open Token (Chomping)

/-- Up to the closing quote, which ends the last line. Spaces at the start of a line do not count.
Line ends that would be folded have no reading here. -/
def readSingleQuoted (fresh : Bool) : List Char → Option (List Char)
  | [] => none
  | c :: rest =>
    if c == '\x27' then
      match rest with
      | '\x27' :: more => (readSingleQuoted false more).map ('\x27' :: ·)
      | ['\n'] => some []
      | _ => none
    else if fresh && isSpace c then readSingleQuoted true rest
    else if isBreak c && lineEnd c == '\n' then none
    else (readSingleQuoted (isBreak c) rest).map (c :: ·)

/-- Up to the closing quote; `skip` characters belong to an escape that has been read. -/
def readDoubleQuoted : Nat → List Char → Option (List Char)
  | _, [] => none
  | skip + 1, _ :: rest => readDoubleQuoted skip rest
  | 0, c :: rest =>
    if c == '"' then if rest == ['\n'] then some [] else none
    else if c == '\\' then
      match Token.escape? rest with
      | some (x, count) => (readDoubleQuoted count rest).map (x :: ·)
      | none => none
    else if isBreak c then none
    else (readDoubleQuoted 0 rest).map (c :: ·)

/-- Lines without their margin, of which `left` spaces are still to come. Only empty lines have
none. -/
def undented (width : Nat) : Nat → List Char → Option (List Char)
  | _, [] => some []
  | left, c :: rest =>
    if isBreak c then (undented width width rest).map (c :: ·)
    else
      match left with
      | 0 => (undented width 0 rest).map (c :: ·)
      | left + 1 => if isSpace c then undented width left rest else none

def chomped (mark : Chomping) (s : List Char) : List Char :=
  let text := (s.reverse.dropWhile isBreak).reverse
  match mark with
  | .strip => text
  | .clip => text ++ (s.drop text.length).take 1
  | .keep => s

/-- After the mark of a block. Unless the header tells the margin, the first line shows it. -/
def readBlock (width : Nat) (s : List Char) : Option (List Char) :=
  let told := s.head? == some '2'
  let s := if told then s.tail else s
  let mark := (Token.chomping? s).getD .clip
  let s := if (Token.chomping? s).isSome then s.tail else s
  match s with
  | '\n' :: lines =>
    (undented width width lines).bind fun text =>
      if !told && text.head?.any (fun c => isSpace c || isBreak c) then none
      else some (chomped mark text)
  | _ => none

/-- One line that starts no other kind of node, holds no key and no comment, and stands for no
number or other value. -/
def readPlain (lines : List Char) : Option (List Char) :=
  let s := lines.takeWhile fun c => !isBreak c
  if lines == s ++ ['\n'] && !startsSpecial s && !holdsSpecial s && !s.head?.any isSpace &&
      !s.getLast?.any isSpace then
    match Plain.resolve s with
    | .text => some s
    | _ => none
  else none

/-- The text of a scalar that stands two columns deeper than what it belongs to, at `width`. -/
def readScalar (width : Nat) : List Char → Option (List Char)
  | '\x27' :: rest => readSingleQuoted false rest
  | '"' :: rest => readDoubleQuoted 0 rest
  | '|' :: rest => readBlock width rest
  | lines => readPlain lines

section

variable {c : Char} {s rest : List Char} {width : Nat}

theorem isPrintable_of_lineEnd (line : isBreak c) (printable : isPrintable c) (other : c ≠ '\n') :
    lineEnd c = c := by
  simp only [isBreak, Bool.or_eq_true, beq_iff_eq] at line
  rcases line with (((rfl | rfl) | rfl) | rfl) | rfl
  · contradiction
  · exact absurd printable (by decide)
  · exact absurd printable (by decide)
  · rfl
  · rfl

theorem readSingleQuoted_of_ne (quote : c ≠ '\x27') (fresh : Bool) (rest : List Char) :
    readSingleQuoted fresh (c :: rest) =
      if fresh && isSpace c then readSingleQuoted true rest
      else if isBreak c && lineEnd c == '\n' then none
      else (readSingleQuoted (isBreak c) rest).map (c :: ·) := by
  rw [readSingleQuoted.eq_def]
  simp only [beq_eq_false_iff_ne.mpr quote, Bool.false_eq_true, if_false]

theorem readSingleQuoted_margin (width : Nat) (s : List Char) :
    readSingleQuoted true (margin width ++ s) = readSingleQuoted true s := by
  induction width with
  | zero => rfl
  | succ n ih =>
    rw [margin, List.replicate_succ, List.cons_append, ← margin,
      readSingleQuoted_of_ne (by decide), ← ih]
    rfl

theorem readSingleQuoted_start (atStart : Bool) (s : List Char) :
    readSingleQuoted atStart ((if atStart then margin width else []) ++ s) =
      readSingleQuoted atStart s := by
  cases atStart with
  | false => rfl
  | true => exact readSingleQuoted_margin width s

theorem readSingleQuoted_go (atStart : Bool) (readable : ∀ c ∈ s, c ≠ '\n' ∧ isPrintable c)
    (apart : hasPair isBreak isSpace s = false)
    (first : atStart = true → ¬ s.head?.any isSpace) :
    readSingleQuoted atStart (singleQuoted.go width atStart s ++ ['\x27', '\n']) = some s := by
  induction s generalizing atStart with
  | nil =>
    rw [singleQuoted.go, readSingleQuoted_start]
    rfl
  | cons c rest ih =>
    obtain ⟨⟨other, printable⟩, others⟩ := List.forall_mem_cons.mp readable
    have apart' : hasPair isBreak isSpace rest = false := by
      cases rest with
      | nil => rfl
      | cons d rest => exact (Bool.or_eq_false_iff.mp apart).2
    rw [singleQuoted.go]
    split
    · rename_i line
      have next : ¬ rest.head?.any isSpace := by
        cases rest with
        | nil => simp
        | cons d rest =>
          have pair := (Bool.or_eq_false_iff.mp apart).1
          simpa [line] using pair
      have text := ih true others apart' fun _ => next
      have kept := isPrintable_of_lineEnd line printable other
      have quote : c ≠ '\x27' := by
        rintro rfl
        exact absurd line (by decide)
      have space : isSpace c = false := by
        cases space : isSpace c with
        | false => rfl
        | true =>
          obtain rfl := beq_iff_eq.mp space
          exact absurd line (by decide)
      simp [readSingleQuoted_of_ne quote, space, kept, other, line, text]
    · rename_i line
      have text := ih false others apart' fun absent => nomatch absent
      rw [List.append_assoc, List.append_assoc, readSingleQuoted_start]
      by_cases quote : c = '\x27'
      · subst quote
        simp [readSingleQuoted, text]
      · have space : (atStart && isSpace c) = false := by
          cases atStart with
          | false => rfl
          | true => simpa using first rfl
        rw [if_neg (mt beq_iff_eq.mp quote), List.singleton_append, readSingleQuoted_of_ne quote]
        simp [space, line, text]

theorem foldlM_hexDigits {count n : Nat} (small : n < Nat.pow 16 count) :
    (hexDigits count n).foldlM (fun n c => (Decimal.digitIn? 16 c).map (16 * n + ·)) 0 =
      some n := by
  have digit : ∀ d < 16, Decimal.digitIn? 16 (upperHex d) = some d := by decide
  induction count generalizing n with
  | zero =>
    obtain rfl : n = 0 := Nat.lt_one_iff.mp small
    rfl
  | succ count ih =>
    have front : n / 16 < Nat.pow 16 count := Nat.div_lt_of_lt_mul (by
      rw [Nat.mul_comm]
      exact small)
    have last := digit (n % 16) (Nat.mod_lt n (by decide))
    simp [hexDigits, List.foldlM_append, ih front, last, Nat.div_add_mod]

theorem length_hexDigits (count n : Nat) : (hexDigits count n).length = count := by
  induction count generalizing n with
  | zero => rfl
  | succ count ih => rw [hexDigits, List.length_append, ih, List.length_singleton]

theorem natural?_hexDigits {count n : Nat} (small : n < Nat.pow 16 (count + 1)) :
    Decimal.natural? 16 (hexDigits (count + 1) n) = some n := by
  rw [← foldlM_hexDigits small]
  cases digits : hexDigits (count + 1) n with
  | nil => exact absurd (length_hexDigits (count + 1) n) (by rw [digits]; exact nofun)
  | cons d ds => rfl

theorem toNat_lt (c : Char) : c.toNat < 0x110000 := by
  have range : c.toNat.isValidChar := c.valid
  unfold Nat.isValidChar at range
  omega

theorem character?_toNat (c : Char) : Token.character? c.toNat = some c := by
  have valid : c.toNat < 0xD800 || (0xDFFF < c.toNat && c.toNat ≤ 0x10FFFF) := by
    have range : c.toNat.isValidChar := c.valid
    unfold Nat.isValidChar at range
    simp only [Bool.or_eq_true, Bool.and_eq_true, decide_eq_true_eq]
    omega
  rw [Token.character?, if_pos valid, Char.ofNat_toNat]

theorem escape?_code {mark : Char} {count : Nat} (simple : Token.simpleEscape? mark = none)
    (long : Token.codeLength? mark = some (count + 1)) (small : c.toNat < Nat.pow 16 (count + 1))
    (rest : List Char) :
    Token.escape? (mark :: (hexDigits (count + 1) c.toNat ++ rest)) = some (c, count + 2) := by
  have digits : (hexDigits (count + 1) c.toNat ++ rest).take (count + 1) =
      hexDigits (count + 1) c.toNat := by
    rw [List.take_left' (length_hexDigits _ _)]
  simp [Token.escape?, simple, long, digits, length_hexDigits, natural?_hexDigits small,
    character?_toNat]

theorem readDoubleQuoted_skip (s rest : List Char) :
    readDoubleQuoted s.length (s ++ rest) = readDoubleQuoted 0 rest := by
  induction s with
  | nil => rfl
  | cons c s ih => exact ih

theorem readDoubleQuoted_escape {code : List Char}
    (escape : ∀ rest, Token.escape? (code ++ rest) = some (c, code.length)) (rest : List Char) :
    readDoubleQuoted 0 ('\\' :: code ++ rest) = (readDoubleQuoted 0 rest).map (c :: ·) := by
  rw [← readDoubleQuoted_skip code rest, List.cons_append, readDoubleQuoted, escape rest]
  rfl

theorem readDoubleQuoted_escaped (c : Char) (rest : List Char) :
    readDoubleQuoted 0 (escaped c ++ rest) = (readDoubleQuoted 0 rest).map (c :: ·) := by
  by_cases letter : c ∈ ['\x00', '\x07', '\x08', '\t', '\n', '\x0b', '\x0c', '\r', '\x1b', '"',
      '\\', '\x85', '\u2028', '\u2029']
  · simp only [List.mem_cons, List.not_mem_nil, or_false] at letter
    rcases letter with rfl | rfl | rfl | rfl | rfl | rfl | rfl | rfl | rfl | rfl | rfl | rfl |
      rfl | rfl <;> rfl
  · simp only [List.mem_cons, List.not_mem_nil, or_false, not_or] at letter
    obtain ⟨null, bell, back, tab, line, vertical, feed, carriage, escape, quote, slash, next,
      separator, paragraph⟩ := letter
    by_cases printable : isPrintable c
    · simp [escaped, readDoubleQuoted, isBreak, *]
    have code : escaped c =
        if c.toNat ≤ 0xff then '\\' :: 'x' :: hexDigits 2 c.toNat
        else if c.toNat ≤ 0xffff then '\\' :: 'u' :: hexDigits 4 c.toNat
        else '\\' :: 'U' :: hexDigits 8 c.toNat := by
      simp only [escaped, beq_iff_eq, *, if_false, Bool.false_eq_true]
    rw [code]
    split
    · rename_i small
      exact readDoubleQuoted_escape (escape?_code rfl rfl (Nat.lt_succ_of_le small)) rest
    split
    · rename_i small
      exact readDoubleQuoted_escape (escape?_code rfl rfl (Nat.lt_succ_of_le small)) rest
    · have small : c.toNat < Nat.pow 16 8 := Nat.lt_of_lt_of_le (toNat_lt c) (by decide)
      exact readDoubleQuoted_escape (escape?_code rfl rfl small) rest

theorem readDoubleQuoted_flatMap (s : List Char) :
    readDoubleQuoted 0 (s.flatMap escaped ++ ['"', '\n']) = some s := by
  induction s with
  | nil => rfl
  | cons c rest ih =>
    rw [List.flatMap_cons, List.append_assoc, readDoubleQuoted_escaped, ih, Option.map_some]

theorem undented_break (line : isBreak c) (width left : Nat) (rest : List Char) :
    undented width left (c :: rest) = (undented width width rest).map (c :: ·) := by
  cases left <;> rw [undented, if_pos line]

theorem undented_margin (width left : Nat) (s : List Char) :
    undented width left (margin left ++ s) = undented width 0 s := by
  induction left with
  | zero => rfl
  | succ n ih =>
    rw [margin, List.replicate_succ, List.cons_append, ← margin, undented]
    exact ih

/-- The text of a block, whose last line is closed. -/
def closed (atStart : Bool) (s : List Char) : List Char :=
  s ++ if s.getLast?.elim atStart isBreak then [] else ['\n']

theorem closed_cons (atStart : Bool) (c : Char) (s : List Char) :
    closed atStart (c :: s) = c :: closed (isBreak c) s := by
  cases s <;> rfl

theorem undented_blockLines (width : Nat) (atStart : Bool) (s : List Char) :
    undented width (if atStart then width else 0) (blockLines width atStart s) =
      some (closed atStart s) := by
  induction s generalizing atStart with
  | nil => cases atStart <;> rfl
  | cons c rest ih =>
    rw [blockLines, closed_cons]
    by_cases line : isBreak c
    · have others : undented width width (blockLines width true rest) = some (closed true rest) :=
        ih true
      rw [if_pos line, undented_break line, others, line]
      rfl
    · have others : undented width 0 (blockLines width false rest) = some (closed false rest) :=
        ih false
      have word : undented width 0 (c :: blockLines width false rest) =
          some (c :: closed false rest) := by
        rw [undented, if_neg line, others]
        rfl
      rw [if_neg line, Bool.eq_false_iff.mpr line, ← word]
      cases atStart with
      | false => rfl
      | true => exact undented_margin width width _

theorem chomping_cases (present : s ≠ []) :
    (chomping s = ['-'] ∧ chomped .strip (closed true s) = s) ∨
      (chomping s = ['+'] ∧ chomped .keep (closed true s) = s) ∨
      (chomping s = [] ∧ chomped .clip (closed true s) = s) := by
  obtain ⟨front, last, rfl⟩ := (List.eq_nil_or_concat s).resolve_left present
  by_cases line : isBreak last
  · obtain rfl | ⟨front, before, rfl⟩ := List.eq_nil_or_concat front
    · simp [chomping, closed, chomped, line]
    · by_cases further : isBreak before
      · simp [chomping, closed, chomped, line, further]
      · simp [chomping, closed, chomped, line, further]
  · have newline : isBreak '\n' = true := by decide
    have sign : chomping (front.concat last) = ['-'] := by
      rw [chomping, List.concat_eq_append, List.reverse_append]
      cases front.reverse <;> simp [line]
    exact Or.inl ⟨sign, by simp [closed, chomped, line, newline]⟩

theorem readBlock_block (present : s ≠ []) (width : Nat) :
    readScalar width (block width s) = some s := by
  have text : undented width width (blockLines width true s) = some (closed true s) :=
    undented_blockLines width true s
  have first : (closed true s).head? = s.head? := by
    cases s with
    | nil => contradiction
    | cons c rest => rfl
  unfold block
  by_cases told : s.head?.any fun c => isSpace c || isBreak c
  · rcases chomping_cases present with ⟨sign, kept⟩ | ⟨sign, kept⟩ | ⟨sign, kept⟩ <;>
      simp [told, sign, readScalar, readBlock, Token.chomping?, text, kept]
  · rcases chomping_cases present with ⟨sign, kept⟩ | ⟨sign, kept⟩ | ⟨sign, kept⟩ <;>
      simp [told, sign, readScalar, readBlock, Token.chomping?, text, kept, first]

theorem resolve_of_isText (word : Plain.isText s) : Plain.resolve s = .text := by
  unfold Plain.isText at word
  split at word
  · assumption
  · cases word

theorem readScalar_plain (plain : mayBePlain s) (width : Nat) :
    readScalar width (s ++ ['\n']) = some s := by
  simp only [mayBePlain, Bool.and_eq_true, Bool.not_eq_true'] at plain
  obtain ⟨⟨⟨⟨⟨word, chars⟩, first⟩, last⟩, special⟩, marks⟩ := plain
  have line : (s ++ ['\n']).takeWhile (fun c => !isBreak c) = s := by
    rw [List.takeWhile_append_of_pos fun c member => ?_]
    · exact List.append_nil s
    · exact (Bool.and_eq_true_iff.mp (List.all_eq_true.mp chars c member)).2
  have read : readPlain (s ++ ['\n']) = some s := by
    simp [readPlain, line, special, marks, first, last, resolve_of_isText word]
  -- a text that starts like another kind of scalar is not plain
  rw [← read, readScalar]
  all_goals
    intro rest same
    cases s with
    | nil => cases same
    | cons c s =>
      obtain ⟨rfl, -⟩ := List.cons.inj same
      cases special

theorem readScalar_singleQuoted (line : s.elem '\n' = false) (single : mayBeSingleQuoted s)
    (width : Nat) : readScalar width (singleQuoted width s ++ ['\n']) = some s := by
  simp only [mayBeSingleQuoted, Bool.and_eq_true, Bool.not_eq_true'] at single
  obtain ⟨⟨printable, _⟩, apart⟩ := single
  have readable : ∀ c ∈ s, c ≠ '\n' ∧ isPrintable c := by
    intro c member
    refine ⟨?_, List.all_eq_true.mp printable c member⟩
    rintro rfl
    rw [List.elem_eq_true_of_mem member] at line
    cases line
  have body : readSingleQuoted false (singleQuoted.go width false s ++ ['\x27', '\n']) = some s :=
    readSingleQuoted_go false readable apart fun absent => nomatch absent
  rw [← body]
  simp [singleQuoted, readScalar]

/-- Whatever the text, its lines are read as it. -/
theorem readScalar_scalarLines (width : Nat) (s : List Char) :
    readScalar width (scalarLines width s) = some s := by
  have double : readScalar width (doubleQuoted s ++ ['\n']) = some s := by
    rw [← readDoubleQuoted_flatMap s]
    simp [doubleQuoted, readScalar]
  unfold scalarLines ScalarStyle.ofText
  by_cases line : s.elem '\n'
  · have present : s ≠ [] := by
      rintro rfl
      cases line
    by_cases lines : mayBeBlock s
    · rw [if_pos line, if_pos lines]
      exact readBlock_block present width
    · rw [if_pos line, if_neg lines]
      exact double
  rw [if_neg line]
  by_cases plain : mayBePlain s
  · rw [if_pos plain]
    exact readScalar_plain plain width
  rw [if_neg plain]
  by_cases single : mayBeSingleQuoted s
  · rw [if_pos single]
    exact readScalar_singleQuoted (Bool.eq_false_iff.mpr line) single width
  · rw [if_neg single]
    exact double

end

end TaskSynth.Yaml
