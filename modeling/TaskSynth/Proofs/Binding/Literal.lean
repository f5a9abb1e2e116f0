import Mathlib.Data.List.Basic
import TaskSynth.Proofs.Decimal.Numeral

/-! Interpreted string literals of Go. What stands between the quotes denotes octets: a character
its own encoding, an escape what it stands for. A text denotes itself exactly if it has no quote,
backslash or line end. -/
namespace TaskSynth.Binding

namespace Literal

/-- Text as the octets of a Go string. -/
def utf8 (cs : List Char) : List UInt8 := cs.flatMap String.utf8EncodeChar

/-- The escapes of one character, each with its octet. -/
def signs : List (Char × UInt8) :=
  [('a', 7), ('b', 8), ('f', 12), ('n', 10), ('r', 13), ('t', 9), ('v', 11), ('\\', 92), ('"', 34)]

/-- What may follow a backslash, and the octets that the escape stands for. Short and long code
points are those of characters, so neither surrogates nor numbers beyond the last of them. -/
inductive Escape : List Char → List UInt8 → Prop where
  | sign {c : Char} {b : UInt8} (known : (c, b) ∈ signs) : Escape [c] [b]
  | octal {ds : List Char} {n : Nat} (length : ds.length = 3)
      (value : Decimal.natural? 8 ds = some n) (octet : n < 256) : Escape ds [.ofNat n]
  | hex {ds : List Char} {n : Nat} (length : ds.length = 2)
      (value : Decimal.natural? 16 ds = some n) : Escape ('x' :: ds) [.ofNat n]
  | short {ds : List Char} {c : Char} (length : ds.length = 4)
      (value : Decimal.natural? 16 ds = some c.toNat) :
      Escape ('u' :: ds) (String.utf8EncodeChar c)
  | long {ds : List Char} {c : Char} (length : ds.length = 8)
      (value : Decimal.natural? 16 ds = some c.toNat) :
      Escape ('U' :: ds) (String.utf8EncodeChar c)

/-- Characters that stand for themselves. Compilers may refuse some more wherever they stand: the
language leaves it to them for the null character and the byte order mark. -/
structure Plain (refused : Char → Prop) (c : Char) : Prop where
  quote : c ≠ '"'
  backslash : c ≠ '\\'
  lineEnd : c ≠ '\n'
  accepted : ¬ refused c

instance (refused : Char → Prop) [DecidablePred refused] :
    DecidablePred (Plain refused) := fun c =>
  decidable_of_iff (c ≠ '"' ∧ c ≠ '\\' ∧ c ≠ '\n' ∧ ¬ refused c)
    ⟨fun ⟨quote, backslash, lineEnd, accepted⟩ => ⟨quote, backslash, lineEnd, accepted⟩,
     fun plain => ⟨plain.quote, plain.backslash, plain.lineEnd, plain.accepted⟩⟩

/-- What stands between the quotes of an interpreted string literal, and what it denotes. -/
inductive Body (refused : Char → Prop) : List Char → List UInt8 → Prop where
  | nil : Body refused [] []
  | plain {c : Char} {cs : List Char} {bs : List UInt8} (plain : Plain refused c)
      (rest : Body refused cs bs) : Body refused (c :: cs) (String.utf8EncodeChar c ++ bs)
  | escape {es cs : List Char} {octets bs : List UInt8} (escape : Escape es octets)
      (rest : Body refused cs bs) : Body refused ('\\' :: (es ++ cs)) (octets ++ bs)

def Denotes (refused : Char → Prop) (literal : List Char) (bs : List UInt8) : Prop :=
  ∃ body, literal = '"' :: (body ++ ['"']) ∧ Body refused body bs

section

variable {refused : Char → Prop} {cs es : List Char} {bs : List UInt8}

theorem utf8_cons (c : Char) (cs : List Char) :
    utf8 (c :: cs) = String.utf8EncodeChar c ++ utf8 cs :=
  List.flatMap_cons

theorem utf8_append (cs ds : List Char) : utf8 (cs ++ ds) = utf8 cs ++ utf8 ds :=
  List.flatMap_append

theorem length_le_utf8 (cs : List Char) : cs.length ≤ (utf8 cs).length := by
  induction cs with
  | nil => exact Nat.le_refl 0
  | cons c rest ih =>
    have octets := c.utf8Size_pos
    simp only [utf8, List.flatMap_cons, List.length_append, List.length_cons,
      String.length_utf8EncodeChar] at ih ⊢
    omega

theorem Escape.length_le (escape : Escape es bs) : bs.length ≤ es.length := by
  cases escape with
  | sign known => exact Nat.le_refl 1
  | octal length value octet => simp [length]
  | hex length value => simp
  | @short ds c length value =>
    have octets := c.utf8Size_le_four
    simp only [String.length_utf8EncodeChar, List.length_cons, length]
    omega
  | @long ds c length value =>
    have octets := c.utf8Size_le_four
    simp only [String.length_utf8EncodeChar, List.length_cons, length]
    omega

theorem Body.length_le (body : Body refused cs bs) :
    bs.length ≤ (utf8 cs).length ∧ ('\\' ∈ cs → bs.length < (utf8 cs).length) := by
  induction body with
  | nil => simp
  | @plain c cs bs plain rest ih =>
    simp only [utf8, List.flatMap_cons, List.length_append, List.mem_cons] at ih ⊢
    refine ⟨by omega, ?_⟩
    rintro (same | later)
    · exact absurd same.symm plain.backslash
    · have shorter := ih.2 later
      omega
  | @escape es cs octets bs escape rest ih =>
    have whole : (utf8 ('\\' :: (es ++ cs))).length =
        1 + (utf8 es).length + (utf8 cs).length := by
      have one : (String.utf8EncodeChar '\\').length = 1 := by decide
      simp only [utf8, List.flatMap_cons, List.flatMap_append, List.length_append, one]
      omega
    have front := Nat.le_trans escape.length_le (length_le_utf8 es)
    rw [whole, List.length_append]
    exact ⟨by omega, fun _ => by omega⟩

/-- A body without escapes has plain characters only, and denotes nothing but them. -/
theorem Body.plain_of_not_mem (body : Body refused cs bs) (free : '\\' ∉ cs) :
    (∀ c ∈ cs, Plain refused c) ∧ bs = utf8 cs := by
  induction body with
  | nil => exact ⟨List.forall_mem_nil _, rfl⟩
  | @plain c cs bs plain rest ih =>
    rw [List.mem_cons, not_or] at free
    obtain ⟨others, same⟩ := ih free.2
    refine ⟨List.forall_mem_cons.mpr ⟨plain, others⟩, ?_⟩
    rw [same, utf8, utf8, List.flatMap_cons]
  | escape escape rest ih => exact absurd List.mem_cons_self free

theorem body_of_plain (plain : ∀ c ∈ cs, Plain refused c) : Body refused cs (utf8 cs) := by
  induction cs with
  | nil => exact .nil
  | cons c rest ih =>
    rw [List.forall_mem_cons] at plain
    exact .plain plain.1 (ih plain.2)

theorem body_self_iff : Body refused cs (utf8 cs) ↔ ∀ c ∈ cs, Plain refused c := by
  constructor
  · intro body
    exact (body.plain_of_not_mem fun escaped => Nat.lt_irrefl _ (body.length_le.2 escaped)).1
  · exact body_of_plain

theorem denotes_iff_body :
    Denotes refused ('"' :: (cs ++ ['"'])) bs ↔ Body refused cs bs := by
  constructor
  · rintro ⟨body, same, denoted⟩
    have inner : cs = body := List.append_cancel_right (List.cons_injective same)
    exact inner ▸ denoted
  · exact fun body => ⟨cs, rfl, body⟩

/-- Text between quotes denotes itself exactly if all its characters do. -/
theorem denotes_self_iff :
    Denotes refused ('"' :: (cs ++ ['"'])) (utf8 cs) ↔ ∀ c ∈ cs, Plain refused c :=
  denotes_iff_body.trans body_self_iff

/-- With a quote, and no backslash to escape it, the text is no literal. -/
theorem not_denotes_of_quote (quote : '"' ∈ cs) (free : '\\' ∉ cs) (bs : List UInt8) :
    ¬ Denotes refused ('"' :: (cs ++ ['"'])) bs := by
  rw [denotes_iff_body]
  intro body
  exact ((body.plain_of_not_mem free).1 _ quote).quote rfl

/-- Text between quotes denotes itself and nothing else exactly if all its characters are plain. -/
theorem denotes_only_self_iff :
    (∀ bs, Denotes refused ('"' :: (cs ++ ['"'])) bs ↔ bs = utf8 cs) ↔
      ∀ c ∈ cs, Plain refused c := by
  constructor
  · intro only
    exact denotes_self_iff.mp ((only (utf8 cs)).mpr rfl)
  · intro plain bs
    have free : '\\' ∉ cs := fun escaped => (plain _ escaped).backslash rfl
    rw [denotes_iff_body]
    constructor
    · exact fun body => (body.plain_of_not_mem free).2
    · rintro rfl
      exact body_of_plain plain

end

end Literal

end TaskSynth.Binding
