import TaskSynth.Proofs.Binding.Encoding
import TaskSynth.Proofs.Binding.Unquote
import TaskSynth.Proofs.StructTag.Pairs

/-! The convention of Go for struct tags, as a scan over the octets of a tag by their indices. On
encoded text it finds the pairs that the scan by characters finds: no octet of a character beyond
ASCII is taken for a space, a colon, a quote or a backslash. -/
namespace TaskSynth.StructTag.Convention

open Binding.Literal

/-- Neither a control octet nor a space, a colon or a quote. -/
def isKeyOctet (b : UInt8) : Bool := 32 < b && b != 58 && b != 34 && b != 127

/-- The index of the first quote from `i` on, or an index beyond the text if it has none. A
backslash skips one octet, whatever that is. -/
def closingIndex (text : List UInt8) (i : Nat) : Nat :=
  if inside : i < text.length then
    if text[i] = 34 then i
    else if text[i] = 92 then closingIndex text (i + 2)
    else closingIndex text (i + 1)
  else i
termination_by text.length - i

/-- A literal that starts with its quote, and what follows it. -/
def cutLiteral (text : List UInt8) : Option (List UInt8 × List UInt8) :=
  let i := closingIndex text 1
  if i < text.length then some (text.take (i + 1), text.drop (i + 1)) else none

/-- A key, its literal with the quotes, and the rest of the tag. -/
def nextPair? (tag : List UInt8) : Option (List UInt8 × List UInt8 × List UInt8) :=
  let text := tag.dropWhile (· == 32)
  let i := (text.takeWhile isKeyOctet).length
  if i = 0 ∨ text[i]? ≠ some 58 ∨ text[i + 1]? ≠ some 34 then none
  else (cutLiteral (text.drop (i + 1))).map fun (literal, rest) => (text.take i, literal, rest)

theorem length_of_nextPair? {tag key literal rest : List UInt8}
    (next : nextPair? tag = some (key, literal, rest)) : rest.length < tag.length := by
  unfold nextPair? at next
  extract_lets text i at next
  obtain ⟨started, closed⟩ := Option.ite_none_left_eq_some.mp next
  obtain ⟨⟨literal, rest⟩, cut, same⟩ := Option.map_eq_some_iff.mp closed
  cases same
  unfold cutLiteral at cut
  extract_lets j at cut
  obtain ⟨inside, same⟩ := Option.ite_none_right_eq_some.mp cut
  cases same
  have some_key : i ≠ 0 := fun none => started (.inl none)
  have key_le : i ≤ text.length := (List.takeWhile_prefix _).length_le
  have text_le : text.length ≤ tag.length := (List.dropWhile_suffix _).length_le
  simp only [List.length_drop]
  omega

def find (tag key : List UInt8) : Option (List UInt8) :=
  match _next : nextPair? tag with
  | none => none
  | some (name, literal, rest) => if name = key then some literal else find rest key
termination_by tag.length
decreasing_by exact length_of_nextPair? _next

theorem find_of_malformed {tag : List UInt8} (malformed : nextPair? tag = none)
    (key : List UInt8) : find tag key = none := by
  rw [find]
  split
  · rfl
  · next pair =>
    rw [malformed] at pair
    cases pair

theorem find_of_nextPair? {tag name literal rest : List UInt8}
    (next : nextPair? tag = some (name, literal, rest)) (key : List UInt8) :
    find tag key = if name = key then some literal else find rest key := by
  rw [find]
  split
  · next malformed =>
    rw [next] at malformed
    cases malformed
  · next pair =>
    rw [next] at pair
    cases pair
    rfl

/-- What the literal of the first pair of a key denotes. A tag is text in UTF-8. -/
def lookup (tag key : List UInt8) : Option (List UInt8) := do
  let literal ← find tag key
  let text ← String.fromUTF8? literal.toByteArray
  unquote text.toList

section

variable {xs : List UInt8}

-- With this the recursion on the index becomes one on the text, at index zero.
theorem closingIndex_succ (b : UInt8) (text : List UInt8) (i : Nat) :
    closingIndex (b :: text) (i + 1) = closingIndex text i + 1 := by
  fun_induction closingIndex text i with
  | case1 i inside quote =>
    rw [closingIndex]
    simp [inside, quote]
  | case2 i inside noQuote backslash ih =>
    rw [closingIndex]
    simp [inside, backslash, ← ih]
  | case3 i inside noQuote noBackslash ih =>
    rw [closingIndex]
    simp [inside, noQuote, noBackslash, ← ih]
  | case4 i beyond =>
    rw [closingIndex]
    simp [beyond]

theorem closingIndex_quote (text : List UInt8) : closingIndex (34 :: text) 0 = 0 := by
  rw [closingIndex]
  simp

theorem closingIndex_backslash (b : UInt8) (text : List UInt8) :
    closingIndex (92 :: b :: text) 0 = closingIndex text 0 + 2 := by
  rw [closingIndex]
  simp [closingIndex_succ]

theorem closingIndex_append (plain : ∀ b ∈ xs, b ≠ 34 ∧ b ≠ 92) (text : List UInt8) :
    closingIndex (xs ++ text) 0 = xs.length + closingIndex text 0 := by
  induction xs with
  | nil => simp
  | cons b xs ih =>
    rw [List.forall_mem_cons] at plain
    rw [List.cons_append, closingIndex]
    simp [plain.1.1, plain.1.2, closingIndex_succ, ih plain.2]
    omega

/-- The scan by indices on a tag that is split after the first key. -/
theorem nextPair?_of_split {tag key after : List UInt8}
    (split : tag.dropWhile (· == 32) = key ++ after)
    (longest : (key ++ after).takeWhile isKeyOctet = key) :
    nextPair? tag =
      if key = [] ∨ after[0]? ≠ some 58 ∨ after[1]? ≠ some 34 then none
      else (cutLiteral (after.drop 1)).map fun (literal, rest) => (key, literal, rest) := by
  have colon : (key ++ after)[key.length]? = after[0]? := by
    rw [List.getElem?_append_right (Nat.le_refl _), Nat.sub_self]
  have quote : (key ++ after)[key.length + 1]? = after[1]? := by
    rw [List.getElem?_append_right (Nat.le_add_right _ 1), Nat.add_sub_cancel_left]
  have quoted : (key ++ after).drop (key.length + 1) = after.drop 1 := by simp
  simp only [nextPair?, split, longest, colon, quote, quoted, List.take_left,
    List.length_eq_zero_iff]

end

section

variable {cs : List Char}

theorem follows_space : Follows (· == 32) (· == ' ') := by
  refine follows_of_ascii false (by decide) ?_ ?_
  · intro b octet
    rw [beq_eq_false_iff_ne]
    rintro rfl
    exact absurd octet (by decide)
  · intro c large
    rw [beq_eq_false_iff_ne]
    rintro rfl
    exact absurd large (by decide)

theorem follows_isKeyChar : Follows isKeyOctet isKeyChar := by
  refine follows_of_ascii true (by decide) ?_ ?_
  · intro b octet
    simp only [isKeyOctet, UInt8.lt_iff_toNat_lt, bne_iff_ne, ne_eq, ← UInt8.toNat_inj,
      Bool.and_eq_true, decide_eq_true_eq, UInt8.reduceToNat]
    omega
  · intro c large
    have space : ' ' < c := Nat.lt_of_lt_of_le (by decide) large
    simp only [isKeyChar, space, bne_iff_ne, ne_eq, ← Char.toNat_inj, Bool.and_eq_true,
      decide_eq_true_eq, true_and, Char.reduceToNat]
    omega

/-- The scan by indices ends with what the scan by characters finds. -/
def ClosesAt (cs : List Char) : Option (List Char × List Char) → Prop
  | some (body, rest) =>
    cs = body ++ '"' :: rest ∧ closingIndex (utf8 cs) 0 = (utf8 body).length
  | none => (utf8 cs).length ≤ closingIndex (utf8 cs) 0

theorem ClosesAt.append {found : Option (List Char × List Char)} (front : List Char)
    (closes : ClosesAt cs found)
    (passed : closingIndex (utf8 front ++ utf8 cs) 0 =
      (utf8 front).length + closingIndex (utf8 cs) 0) :
    ClosesAt (front ++ cs) (found.map fun (body, rest) => (front ++ body, rest)) := by
  cases found with
  | none =>
    have beyond : (utf8 cs).length ≤ closingIndex (utf8 cs) 0 := closes
    show (utf8 (front ++ cs)).length ≤ closingIndex (utf8 (front ++ cs)) 0
    rw [utf8_append, passed, List.length_append]
    exact Nat.add_le_add_left beyond _
  | some found =>
    obtain ⟨body, rest⟩ := found
    obtain ⟨rfl, index⟩ := closes
    refine ⟨(List.append_assoc _ _ _).symm, ?_⟩
    rw [utf8_append, passed, index, utf8_append, List.length_append]

theorem closesAt_closeQuote (cs : List Char) : ClosesAt cs (closeQuote cs) := by
  fun_induction closeQuote cs with
  | case1 => exact Nat.zero_le _
  | case2 =>
    rw [ClosesAt, show utf8 ['\\'] = [92] from rfl, closingIndex]
    simp [closingIndex_succ]
  | case3 c rest ih =>
    -- Only the first octet of the character is skipped; the others pass as they are.
    refine ih.append ['\\', c] ?_
    obtain ⟨b, bs, own⟩ := List.exists_cons_of_ne_nil (String.utf8EncodeChar_ne_nil (c := c))
    have octets : utf8 ['\\', c] = 92 :: b :: bs := by
      rw [utf8_cons, utf8_cons, own]
      exact congrArg (92 :: b :: ·) (List.append_nil bs)
    rw [octets, List.cons_append, List.cons_append, closingIndex_backslash,
      closingIndex_append (octets_after_first own), List.length_cons, List.length_cons]
    omega
  | case4 c rest _ _ quote =>
    rw [eq_of_beq quote]
    exact ⟨rfl, closingIndex_quote _⟩
  | case5 c rest alone escaped quote ih =>
    have backslash : c ≠ '\\' := by
      rintro rfl
      cases rest with
      | nil => exact alone rfl rfl
      | cons d rest => exact escaped d rest rfl rfl
    refine ih.append [c] (closingIndex_append ?_ _)
    rw [utf8, List.flatMap_singleton]
    exact octets_plain (by simpa using quote) backslash

def literalOctets (body : List Char) : List UInt8 := utf8 ('"' :: (body ++ ['"']))

theorem literalOctets_eq (body : List Char) : literalOctets body = 34 :: (utf8 body ++ [34]) := by
  rw [literalOctets, utf8_cons, utf8_append]
  rfl

/-- The pair at the front of a tag, in its encoding. -/
def encodePair (pair : List Char × List Char × List Char) :
    List UInt8 × List UInt8 × List UInt8 :=
  (utf8 pair.1, literalOctets pair.2.1, utf8 pair.2.2)

theorem cutLiteral_utf8 (cs : List Char) :
    cutLiteral (utf8 ('"' :: cs)) =
      (closeQuote cs).map fun (body, rest) => (literalOctets body, utf8 rest) := by
  have closes := closesAt_closeQuote cs
  have octets : utf8 ('"' :: cs) = 34 :: utf8 cs := utf8_cons _ _
  rw [cutLiteral, octets, closingIndex_succ, List.length_cons]
  cases found : closeQuote cs with
  | none =>
    rw [found] at closes
    have beyond : (utf8 cs).length ≤ closingIndex (utf8 cs) 0 := closes
    exact if_neg (by omega)
  | some pair =>
    obtain ⟨body, rest⟩ := pair
    rw [found] at closes
    obtain ⟨rfl, index⟩ := closes
    have parts : 34 :: utf8 (body ++ '"' :: rest) = literalOctets body ++ utf8 rest := by
      rw [← octets, literalOctets, ← utf8_append]
      simp
    have size : (literalOctets body).length = (utf8 body).length + 1 + 1 := by
      rw [literalOctets_eq]
      simp
    rw [index, parts, List.take_left' size, List.drop_left' size, if_pos]
    · rfl
    · have sizes := congrArg List.length parts
      rw [List.length_cons, List.length_append] at sizes
      omega

theorem colon_quote_iff :
    (utf8 cs)[0]? = some 58 ∧ (utf8 cs)[1]? = some 34 ↔ ∃ rest, cs = ':' :: '"' :: rest := by
  constructor
  · rintro ⟨colon, quote⟩
    obtain ⟨afterColon, rfl, octets⟩ := exists_cons_of_utf8 (d := ':') (by decide) colon
    rw [octets, List.getElem?_cons_succ] at quote
    obtain ⟨rest, rfl, _⟩ := exists_cons_of_utf8 (d := '"') (by decide) quote
    exact ⟨rest, rfl⟩
  · rintro ⟨rest, rfl⟩
    have octets : utf8 (':' :: '"' :: rest) = 58 :: 34 :: utf8 rest := by
      rw [utf8_cons, utf8_cons]
      rfl
    rw [octets]
    exact ⟨rfl, rfl⟩

theorem utf8_eq_nil_iff : utf8 cs = [] ↔ cs = [] := by
  rw [← @utf8_inj cs []]
  rfl

theorem nextPair?_utf8 (tag : List Char) :
    nextPair? (utf8 tag) = (StructTag.nextPair? tag).map encodePair := by
  have split : (utf8 tag).dropWhile (· == 32) =
      utf8 ((tag.dropWhile (· == ' ')).takeWhile isKeyChar) ++
        utf8 ((tag.dropWhile (· == ' ')).dropWhile isKeyChar) := by
    rw [dropWhile_utf8 follows_space, ← utf8_append, List.takeWhile_append_dropWhile]
  rw [nextPair?_of_split split
    (by rw [← split, dropWhile_utf8 follows_space, takeWhile_utf8 follows_isKeyChar])]
  fun_cases StructTag.nextPair? tag with
  | case1 text noKey =>
    rw [noKey]
    exact if_pos (.inl rfl)
  | case2 text rest after someKey =>
    obtain ⟨colon, quote⟩ := colon_quote_iff.mpr ⟨rest, rfl⟩
    have octets : utf8 (':' :: '"' :: rest) = 58 :: utf8 ('"' :: rest) := utf8_cons _ _
    rw [after, if_neg]
    · rw [octets, List.drop_succ_cons, List.drop_zero, cutLiteral_utf8, Option.map_map,
        Option.map_map]
      rfl
    · rintro (noKey | noColon | noQuote)
      · exact someKey (utf8_eq_nil_iff.mp noKey)
      · exact noColon colon
      · exact noQuote quote
  | case3 text someKey other =>
    refine if_pos ?_
    by_contra pair
    rw [not_or, not_or, not_not, not_not] at pair
    obtain ⟨rest, split⟩ := colon_quote_iff.mp pair.2
    exact other rest split

theorem find_utf8 (tag key : List Char) :
    find (utf8 tag) (utf8 key) = ((pairs tag).lookup key).map literalOctets := by
  have octets := nextPair?_utf8 tag
  cases next : StructTag.nextPair? tag with
  | none =>
    rw [next] at octets
    rw [find_of_malformed octets, pairs_of_malformed next]
    rfl
  | some pair =>
    obtain ⟨name, body, rest⟩ := pair
    rw [next] at octets
    rw [find_of_nextPair? octets, pairs_of_nextPair? next, List.lookup_cons]
    by_cases same : name = key
    · rw [if_pos (congrArg utf8 same), same, beq_self_eq_true]
      rfl
    · rw [if_neg (fun encoded => same (utf8_inj.mp encoded)),
        beq_eq_false_iff_ne.mpr (Ne.symm same)]
      exact find_utf8 rest key
termination_by tag.length
decreasing_by exact StructTag.length_of_nextPair? next

end

theorem find_octets (tag key : String) :
    find (Text.octets tag) (Text.octets key) =
      ((pairs tag.toList).lookup key.toList).map literalOctets :=
  find_utf8 _ _

theorem lookup_octets (tag key : String) :
    lookup (Text.octets tag) (Text.octets key) =
      ((pairs tag.toList).lookup key.toList).bind fun body =>
        unquote ('"' :: (body ++ ['"'])) := by
  rw [lookup, find_octets]
  cases (pairs tag.toList).lookup key.toList with
  | none => rfl
  | some body =>
    simp [literalOctets, fromUTF8?_utf8]

end TaskSynth.StructTag.Convention
