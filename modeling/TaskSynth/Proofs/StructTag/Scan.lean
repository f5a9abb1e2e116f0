import TaskSynth.Proofs.StructTag.Octets

/-! The scan of a tag by indices, with every access checked. It reads octets one at a time and a
backslash makes it skip one octet, so it may pass the inside of a character, and the end. Still no
octet is read behind the end and no text is cut but between two characters; each round leaves less
of the tag to the next one, and the answer is that of the scan by characters. -/
namespace TaskSynth.StructTag.Scan

open Binding.Literal
open Convention (isKeyOctet closingIndex)

inductive Fault where
  /-- An octet was read behind the end. -/
  | read (index : Nat)
  /-- A text was cut behind its end or inside a character. -/
  | cut (index : Nat)
  deriving DecidableEq

def octetAt (octets : List UInt8) (i : Nat) : Except Fault UInt8 :=
  match octets[i]? with
  | some b => .ok b
  | none => .error (.read i)

/-- The characters before and from an octet, if one of them starts there or the text ends there. -/
def split? : Nat → List Char → Option (List Char × List Char)
  | 0, cs => some ([], cs)
  | _ + 1, [] => none
  | i + 1, c :: cs =>
    if c.utf8Size ≤ i + 1 then
      (split? (i + 1 - c.utf8Size) cs).map fun (front, back) => (c :: front, back)
    else none

def cutAt (text : List Char) (i : Nat) : Except Fault (List Char × List Char) :=
  match split? i text with
  | some parts => .ok parts
  | none => .error (.cut i)

def sliceTo (text : List Char) (i : Nat) : Except Fault (List Char) := (cutAt text i).map Prod.fst

def sliceFrom (text : List Char) (i : Nat) : Except Fault (List Char) := (cutAt text i).map Prod.snd

/-- The index behind the key that reaches up to `i`. -/
def keyEnd (octets : List UInt8) (i : Nat) : Except Fault Nat :=
  if i < octets.length then do
    let b ← octetAt octets i
    if isKeyOctet b then keyEnd octets (i + 1) else .ok i
  else .ok i
termination_by octets.length - i

/-- Is there a key before `i`, and a colon and a quote behind it? The quote is only looked for
behind a colon. -/
def opensAt (octets : List UInt8) (i : Nat) : Except Fault Bool :=
  if i = 0 ∨ octets.length ≤ i + 1 then .ok false
  else do
    let colon ← octetAt octets i
    if colon = 58 then
      let quote ← octetAt octets (i + 1)
      .ok (quote = 34)
    else .ok false

/-- The index of the first quote from `i` on. A backslash skips one octet, whatever that is; so
without a quote the index may be the one after the end. -/
def valueEnd (octets : List UInt8) (i : Nat) : Except Fault Nat :=
  if i < octets.length then do
    let b ← octetAt octets i
    if b = 34 then .ok i
    else if b = 92 then valueEnd octets (i + 2)
    else valueEnd octets (i + 1)
  else .ok i
termination_by octets.length - i

/-- The key, the body of the literal and the rest of a text that starts with a pair. -/
def pairOf (text : List Char) : Except Fault (Option (List Char × List Char × List Char)) := do
  let i ← keyEnd (utf8 text) 0
  if ← opensAt (utf8 text) i then
    let key ← sliceTo text i
    let value ← sliceFrom text (i + 1)
    let j ← valueEnd (utf8 value) 1
    if j < (utf8 value).length then
      let literal ← sliceTo value (j + 1)
      let rest ← sliceFrom value (j + 1)
      .ok (some (key, literal.tail.dropLast, rest))
    else .ok none
  else .ok none

inductive Round where
  | answer (value : Option String)
  | onward (rest : List Char)

def Round.ofPair (key : List Char) : Option (List Char × List Char × List Char) → Round
  | some (name, body, rest) =>
    if name = key then .answer (literalValue? body) else .onward rest
  | none => .answer none

def round (key tag : List Char) : Except Fault Round :=
  (pairOf (tag.dropWhile (· == ' '))).map (Round.ofPair key)

def Round.Shortens (tag : List Char) : Round → Prop
  | .answer _ => True
  | .onward rest => (utf8 rest).length < (utf8 tag).length

section

variable {octets : List UInt8} {text front back body quoted rest : List Char} {i : Nat}

theorem octetAt_of_lt (inside : i < octets.length) : octetAt octets i = .ok octets[i] := by
  rw [octetAt, List.getElem?_eq_getElem inside]

theorem length_utf8_cons (c : Char) (cs : List Char) :
    (utf8 (c :: cs)).length = c.utf8Size + (utf8 cs).length := by
  rw [utf8_cons, List.length_append, String.length_utf8EncodeChar]

theorem split?_eq_some_iff :
    split? i text = some (front, back) ↔ text = front ++ back ∧ i = (utf8 front).length := by
  constructor
  · fun_induction split? i text generalizing front back with
    | case1 cs =>
      intro parts
      cases parts
      exact ⟨rfl, rfl⟩
    | case2 => exact nofun
    | case3 i c cs size ih =>
      intro parts
      obtain ⟨⟨first, last⟩, found, same⟩ := Option.map_eq_some_iff.mp parts
      cases same
      obtain ⟨rfl, index⟩ := ih found
      refine ⟨rfl, ?_⟩
      rw [length_utf8_cons]
      omega
    | case4 => exact nofun
  · rintro ⟨rfl, rfl⟩
    induction front with
    | nil => exact split?.eq_1 back
    | cons c front ih =>
      have first := c.utf8Size_pos
      obtain ⟨n, size⟩ := Nat.exists_eq_succ_of_ne_zero
        (Nat.ne_of_gt (Nat.lt_of_lt_of_le first (Nat.le_add_right _ (utf8 front).length)))
      have others : n + 1 - c.utf8Size = (utf8 front).length := by omega
      rw [length_utf8_cons, size, List.cons_append, split?, if_pos (by omega), others, ih,
        Option.map_some]

theorem cutAt_eq_ok_iff :
    cutAt text i = .ok (front, back) ↔ text = front ++ back ∧ i = (utf8 front).length := by
  rw [← split?_eq_some_iff, cutAt]
  cases split? i text <;> simp

example : cutAt ['ä', 'b'] 1 = .error (.cut 1) ∧ cutAt ['ä', 'b'] 2 = .ok (['ä'], ['b']) := by
  decide

theorem sliceTo_of_append (whole : text = front ++ back) (index : i = (utf8 front).length) :
    sliceTo text i = .ok front := by
  rw [sliceTo, cutAt_eq_ok_iff.mpr ⟨whole, index⟩, Outcome.map_ok]

theorem sliceFrom_of_append (whole : text = front ++ back) (index : i = (utf8 front).length) :
    sliceFrom text i = .ok back := by
  rw [sliceFrom, cutAt_eq_ok_iff.mpr ⟨whole, index⟩, Outcome.map_ok]

theorem keyEnd_eq (inside : i ≤ octets.length) :
    keyEnd octets i = .ok (i + ((octets.drop i).takeWhile isKeyOctet).length) := by
  fun_induction keyEnd octets i with
  | case1 i less ih =>
    rw [octetAt_of_lt less, Outcome.bind_ok, List.drop_eq_getElem_cons less]
    by_cases own : isKeyOctet octets[i]
    · rw [if_pos own, ih less, List.takeWhile_cons_of_pos own, List.length_cons]
      congr 1
      omega
    · rw [if_neg own, List.takeWhile_cons_of_neg own]
      rfl
  | case2 i beyond =>
    rw [List.drop_eq_nil_of_le (Nat.le_of_not_lt beyond)]
    rfl

theorem valueEnd_eq (octets : List UInt8) (i : Nat) :
    valueEnd octets i = .ok (closingIndex octets i) := by
  fun_induction closingIndex octets i with
  | case1 i inside quote =>
    rw [valueEnd, if_pos inside, octetAt_of_lt inside, Outcome.bind_ok, if_pos quote]
  | case2 i inside noQuote backslash ih =>
    rw [valueEnd, if_pos inside, octetAt_of_lt inside, Outcome.bind_ok, if_neg noQuote,
      if_pos backslash, ih]
  | case3 i inside noQuote noBackslash ih =>
    rw [valueEnd, if_pos inside, octetAt_of_lt inside, Outcome.bind_ok, if_neg noQuote,
      if_neg noBackslash, ih]
  | case4 i beyond => rw [valueEnd, if_neg beyond]

example : valueEnd (utf8 ['"', '\\', 'ä', '"']) 1 = .ok 4 := by cbv
example : valueEnd (utf8 ['"', '\\']) 1 = .ok 3 := by cbv

/-- A backslash at the end leads one step past it, and nothing leads further. -/
theorem closingIndex_le (inside : i ≤ octets.length + 1) :
    closingIndex octets i ≤ octets.length + 1 := by
  fun_induction closingIndex octets i with
  | case1 => exact inside
  | case2 i less noQuote backslash ih => exact ih (by omega)
  | case3 i less noQuote noBackslash ih => exact ih (by omega)
  | case4 => exact inside

theorem opensAt_eq (octets : List UInt8) (i : Nat) :
    opensAt octets i = .ok (i ≠ 0 ∧ octets[i]? = some 58 ∧ octets[i + 1]? = some 34) := by
  unfold opensAt
  by_cases closed : i = 0 ∨ octets.length ≤ i + 1
  · have noPair : ¬ (i ≠ 0 ∧ octets[i]? = some 58 ∧ octets[i + 1]? = some 34) := by
      rintro ⟨started, _, quote⟩
      obtain ⟨inside, _⟩ := List.getElem?_eq_some_iff.mp quote
      omega
    rw [if_pos closed, decide_eq_false noPair]
  · rw [not_or] at closed
    have started : i ≠ 0 := closed.1
    have second : i + 1 < octets.length := Nat.lt_of_not_le closed.2
    have first : i < octets.length := Nat.lt_of_succ_lt second
    rw [if_neg (by omega), octetAt_of_lt first, octetAt_of_lt second,
      List.getElem?_eq_getElem first, List.getElem?_eq_getElem second]
    by_cases colon : octets[i] = 58 <;> simp [started, colon]

theorem opensAt_utf8 (key after : List Char) :
    ∃ opens, opensAt (utf8 (key ++ after)) (utf8 key).length = .ok opens ∧
      (opens = true ↔ key ≠ [] ∧ ∃ rest, after = ':' :: '"' :: rest) := by
  have colon : (utf8 key ++ utf8 after)[(utf8 key).length]? = (utf8 after)[0]? := by
    rw [List.getElem?_append_right (Nat.le_refl _), Nat.sub_self]
  have quote : (utf8 key ++ utf8 after)[(utf8 key).length + 1]? = (utf8 after)[1]? := by
    rw [List.getElem?_append_right (Nat.le_add_right _ 1), Nat.add_sub_cancel_left]
  refine ⟨_, opensAt_eq _ _, ?_⟩
  rw [decide_eq_true_iff, utf8_append, colon, quote, Convention.colon_quote_iff, Ne,
    List.length_eq_zero_iff, Convention.utf8_eq_nil_iff]

theorem keyEnd_utf8 (text : List Char) :
    keyEnd (utf8 text) 0 = .ok (utf8 (text.takeWhile isKeyChar)).length := by
  rw [keyEnd_eq (Nat.zero_le _), List.drop_zero, Nat.zero_add,
    takeWhile_utf8 Convention.follows_isKeyChar]

theorem valueEnd_utf8 (cs : List Char) :
    valueEnd (utf8 ('"' :: cs)) 1 = .ok (closingIndex (utf8 cs) 0 + 1) := by
  have octets : utf8 ('"' :: cs) = 34 :: utf8 cs := utf8_cons _ _
  rw [valueEnd_eq, octets, Convention.closingIndex_succ]

/-- A value that is closed ends before the text does, and its quote is followed by a character or
by the end. -/
theorem index_of_closed (closed : closeQuote text = some (body, rest)) :
    '"' :: text = '"' :: (body ++ ['"']) ++ rest ∧
      closingIndex (utf8 text) 0 + 1 + 1 = (utf8 ('"' :: (body ++ ['"']))).length ∧
      closingIndex (utf8 text) 0 + 1 < (utf8 ('"' :: text)).length := by
  have closes := Convention.closesAt_closeQuote text
  rw [closed] at closes
  obtain ⟨rfl, index⟩ := closes
  have parts : '"' :: (body ++ '"' :: rest) = '"' :: (body ++ ['"']) ++ rest := by simp
  have literal : (utf8 ('"' :: (body ++ ['"']))).length = (utf8 body).length + 1 + 1 := by
    rw [← Convention.literalOctets, Convention.literalOctets_eq]
    simp
  have whole : (utf8 ('"' :: (body ++ '"' :: rest))).length =
      (utf8 body).length + 1 + 1 + (utf8 rest).length := by
    rw [parts, utf8_append, List.length_append, literal]
  exact ⟨parts, by omega, by omega⟩

theorem le_of_not_closed (unclosed : closeQuote text = none) :
    (utf8 ('"' :: text)).length ≤ closingIndex (utf8 text) 0 + 1 := by
  have closes := Convention.closesAt_closeQuote text
  rw [unclosed] at closes
  have beyond : (utf8 text).length ≤ closingIndex (utf8 text) 0 := closes
  have octets : utf8 ('"' :: text) = 34 :: utf8 text := utf8_cons _ _
  rw [octets]
  exact Nat.succ_le_succ beyond

theorem pairOf_of_quoted (someKey : text.takeWhile isKeyChar ≠ [])
    (after : text.dropWhile isKeyChar = ':' :: '"' :: quoted) :
    pairOf text =
      .ok ((closeQuote quoted).map fun (body, rest) => (text.takeWhile isKeyChar, body, rest)) := by
  have whole : text = text.takeWhile isKeyChar ++ ':' :: '"' :: quoted := by
    rw [← after, List.takeWhile_append_dropWhile]
  obtain ⟨opens, tested, opens_iff⟩ :=
    opensAt_utf8 (text.takeWhile isKeyChar) (':' :: '"' :: quoted)
  rw [← whole] at tested
  have colon : text = text.takeWhile isKeyChar ++ [':'] ++ '"' :: quoted := by
    rw [List.append_assoc, List.singleton_append, ← whole]
  have behindColon : (utf8 (text.takeWhile isKeyChar)).length + 1 =
      (utf8 (text.takeWhile isKeyChar ++ [':'])).length := by
    rw [utf8_append, List.length_append]
    rfl
  rw [pairOf, keyEnd_utf8, Outcome.bind_ok, tested, Outcome.bind_ok,
    if_pos (opens_iff.mpr ⟨someKey, quoted, rfl⟩), sliceTo_of_append whole rfl, Outcome.bind_ok,
    sliceFrom_of_append colon behindColon, Outcome.bind_ok, valueEnd_utf8, Outcome.bind_ok]
  cases found : closeQuote quoted with
  | none =>
    rw [if_neg (Nat.not_lt.mpr (le_of_not_closed found))]
    rfl
  | some pair =>
    obtain ⟨body, rest⟩ := pair
    obtain ⟨parts, behindQuote, inside⟩ := index_of_closed found
    -- Both cuts are behind the quote that closes the value, a character of its own.
    rw [if_pos inside, sliceTo_of_append parts behindQuote, Outcome.bind_ok,
      sliceFrom_of_append parts behindQuote, Outcome.bind_ok, List.tail_cons, List.dropLast_concat]
    rfl

theorem pairOf_of_not_quoted
    (other : text.takeWhile isKeyChar ≠ [] →
      ∀ quoted, text.dropWhile isKeyChar ≠ ':' :: '"' :: quoted) : pairOf text = .ok none := by
  obtain ⟨opens, tested, opens_iff⟩ :=
    opensAt_utf8 (text.takeWhile isKeyChar) (text.dropWhile isKeyChar)
  rw [List.takeWhile_append_dropWhile] at tested
  rw [pairOf, keyEnd_utf8, Outcome.bind_ok, tested, Outcome.bind_ok, if_neg]
  intro opened
  obtain ⟨someKey, quoted, after⟩ := opens_iff.mp opened
  exact other someKey quoted after

theorem pairOf_eq (tag : List Char) : pairOf (tag.dropWhile (· == ' ')) = .ok (nextPair? tag) := by
  fun_cases nextPair? tag with
  | case1 text noKey => exact pairOf_of_not_quoted fun someKey => absurd noKey someKey
  | case2 text quoted after someKey => exact pairOf_of_quoted someKey after
  | case3 text someKey other => exact pairOf_of_not_quoted fun _ => other

theorem round_eq (key tag : List Char) :
    round key tag = .ok (Round.ofPair key (nextPair? tag)) := by
  rw [round, pairOf_eq, Outcome.map_ok]

theorem shortens_ofPair (key tag : List Char) :
    (Round.ofPair key (nextPair? tag)).Shortens tag := by
  cases next : nextPair? tag with
  | none => trivial
  | some pair =>
    obtain ⟨name, body, rest⟩ := pair
    by_cases same : name = key
    · rw [Round.ofPair, if_pos same]
      trivial
    · rw [Round.ofPair, if_neg same]
      obtain ⟨_, _, spaces, rfl⟩ := nextPair?_eq_some_iff.mp next
      have quote : (String.utf8EncodeChar '"').length = 1 := rfl
      simp only [Round.Shortens, utf8_append, utf8_cons, List.length_append]
      omega

theorem shortens_of_round {outcome : Round} {key tag : List Char}
    (done : round key tag = .ok outcome) : outcome.Shortens tag := by
  rw [round_eq] at done
  exact Except.ok.inj done ▸ shortens_ofPair key tag

end

def scan (key tag : List Char) : Except Fault (Option String) :=
  match _done : round key tag with
  | .error fault => .error fault
  | .ok (.answer value) => .ok value
  | .ok (.onward rest) => scan key rest
termination_by (utf8 tag).length
decreasing_by exact shortens_of_round _done

section

variable {key tag rest : List Char} {value : Option String}

theorem scan_of_answer (done : round key tag = .ok (.answer value)) : scan key tag = .ok value := by
  rw [scan]
  split <;> simp_all

theorem scan_of_onward (done : round key tag = .ok (.onward rest)) :
    scan key tag = scan key rest := by
  rw [scan]
  split <;> simp_all

end

theorem scan_eq (key tag : List Char) :
    scan key tag = .ok ((pairs tag).lookup key >>= literalValue?) := by
  cases next : nextPair? tag with
  | none =>
    have done : round key tag = .ok (.answer none) := by rw [round_eq, next]; rfl
    rw [scan_of_answer done, pairs_of_malformed next]
    rfl
  | some pair =>
    obtain ⟨name, body, rest⟩ := pair
    rw [pairs_of_nextPair? next, List.lookup_cons]
    by_cases same : name = key
    · have done : round key tag = .ok (.answer (literalValue? body)) := by
        rw [round_eq, next, Round.ofPair, if_pos same]
      rw [scan_of_answer done, same, beq_self_eq_true]
      rfl
    · have done : round key tag = .ok (.onward rest) := by
        rw [round_eq, next, Round.ofPair, if_neg same]
      have shorter : (utf8 rest).length < (utf8 tag).length := shortens_of_round done
      rw [scan_of_onward done, beq_eq_false_iff_ne.mpr (Ne.symm same)]
      exact scan_eq key rest
termination_by (utf8 tag).length

/-- The scan of any tag for any key ends with an answer, which is that of the scan by characters: no
octet is read and no text is cut where it must not be. That holds of each round on each text, and
a round that goes on leaves less of it. Within a round the indices stop: that of a key at the end,
that of a value no further than one step behind it. -/
theorem scan_safe (tag key : String) :
    scan key.toList tag.toList = .ok (lookup tag key) ∧
    (∀ text, ∃ outcome, round key.toList text = .ok outcome ∧ outcome.Shortens text) ∧
    ∀ octets, (∃ i, keyEnd octets 0 = .ok i ∧ i ≤ octets.length) ∧
      ∃ i, valueEnd octets 1 = .ok i ∧ i ≤ octets.length + 1 := by
  refine ⟨scan_eq _ _, ?_, ?_⟩
  · intro text
    exact ⟨_, round_eq _ _, shortens_ofPair _ _⟩
  · intro octets
    have key : (octets.takeWhile Convention.isKeyOctet).length ≤ octets.length :=
      (List.takeWhile_prefix _).length_le
    exact ⟨⟨_, keyEnd_eq (Nat.zero_le _), by simpa using key⟩,
      _, valueEnd_eq _ _, closingIndex_le (by omega)⟩

end TaskSynth.StructTag.Scan
