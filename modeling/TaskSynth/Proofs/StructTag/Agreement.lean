import TaskSynth.Proofs.Json.Literal
import TaskSynth.Proofs.StructTag.Octets

/-! What a tag says against the convention of Go. Both find the same literal, but a value is read
here as a literal of JSON and there as one of Go. The two languages of literals overlap; where
both take a literal they read it alike. So the answers agree exactly if the literal is in both
languages or in neither. -/
namespace TaskSynth.StructTag

/-- A body that is spelt alike in JSON and in Go: printable characters, the escapes of one
character but that of the solidus, and code points of four digits. -/
inductive Shared : List Char → Prop where
  | nil : Shared []
  | plain {c : Char} {cs : List Char} (plain : Json.Literal.Plain c) (rest : Shared cs) :
      Shared (c :: cs)
  | sign {c v : Char} {cs : List Char} (known : (c, v) ∈ Json.Literal.signs)
      (solidus : c ≠ '/') (rest : Shared cs) : Shared ('\\' :: c :: cs)
  | codePoint {ds cs : List Char} {v : Char} (length : ds.length = 4)
      (value : Decimal.natural? 16 ds = some v.toNat) (rest : Shared cs) :
      Shared ('\\' :: 'u' :: (ds ++ cs))

abbrev GoBody (body : List Char) (bs : List UInt8) : Prop :=
  Binding.Literal.Body (fun _ => False) body bs

section

variable {body cs es rest vs : List Char} {bs : List UInt8} {c v : Char}

/-- A sign of JSON is the solidus or one of Go, with the same meaning. -/
theorem sign_cases : ∀ sign ∈ Json.Literal.signs, sign.1 = '/' ∨
    ∃ go ∈ Binding.Literal.signs, go.1 = sign.1 ∧ String.utf8EncodeChar sign.2 = [go.2] := by
  decide

theorem escape_of_sign (known : (c, v) ∈ Json.Literal.signs) (solidus : c ≠ '/') :
    Binding.Literal.Escape [c] (String.utf8EncodeChar v) := by
  obtain ⟨go, inGo, same, octet⟩ := (sign_cases (c, v) known).resolve_left solidus
  obtain rfl : go.1 = c := same
  rw [show String.utf8EncodeChar v = [go.2] from octet]
  exact .sign inGo

theorem goPlain_of_plain (plain : Json.Literal.Plain c) :
    Binding.Literal.Plain (fun _ => False) c := by
  refine ⟨plain.quote, plain.backslash, ?_, id⟩
  rintro rfl
  exact absurd plain.printable (by decide)

theorem bodies_of_shared (shared : Shared body) :
    ∃ vs, Json.Literal.Body body vs ∧ GoBody body (Binding.Literal.utf8 vs) := by
  induction shared with
  | nil => exact ⟨[], .nil, .nil⟩
  | @plain c cs plain _ ih =>
    obtain ⟨vs, json, go⟩ := ih
    exact ⟨c :: vs, .plain plain json, .plain (goPlain_of_plain plain) go⟩
  | @sign c v cs known solidus _ ih =>
    obtain ⟨vs, json, go⟩ := ih
    have jsonEscape : Json.Literal.Escape [c] v := .sign known
    refine ⟨v :: vs, .escape jsonEscape json, ?_⟩
    rw [Binding.Literal.utf8_cons]
    exact .escape (escape_of_sign known solidus) go
  | @codePoint ds cs v length value _ ih =>
    obtain ⟨vs, json, go⟩ := ih
    have jsonEscape : Json.Literal.Escape ('u' :: ds) v := .unit length value
    have goEscape : Binding.Literal.Escape ('u' :: ds) (String.utf8EncodeChar v) :=
      .short length value
    refine ⟨v :: vs, .escape jsonEscape json, ?_⟩
    rw [Binding.Literal.utf8_cons]
    exact .escape goEscape go

theorem escape?_solidus (rest : List Char) : Binding.Literal.escape? ('/' :: rest) = none := by
  have noSign : Binding.Literal.signs.lookup '/' = none := by decide
  have noDigit : Decimal.digitIn? 8 '/' = none := by decide
  have noNumeral : Decimal.numeral? 8 3 ('/' :: rest) = none := by
    cases found : Decimal.numeral? 8 3 ('/' :: rest) with
    | none => rfl
    | some result =>
      obtain ⟨ds, length, value, same⟩ := Decimal.numeral?_eq_some_iff.mp found
      obtain ⟨d, others, rfl⟩ := List.exists_cons_of_length_eq_add_one length
      obtain ⟨_, digit⟩ := Decimal.digitIn?_of_natural? List.mem_cons_self value
      rw [← (List.cons.inj same).1, noDigit] at digit
      cases digit
  simp [Binding.Literal.escape?, noSign, noNumeral]

theorem escape?_surrogate {hs : List Char} {high : Nat} (length : hs.length = 4)
    (value : Decimal.natural? 16 hs = some high) (leading : 0xD800 ≤ high ∧ high ≤ 0xDBFF)
    (rest : List Char) : Binding.Literal.escape? ('u' :: (hs ++ rest)) = none := by
  cases found : Binding.Literal.escape? ('u' :: (hs ++ rest)) with
  | none => rfl
  | some result =>
    obtain ⟨octets, after⟩ := result
    have noSign : Binding.Literal.signs.lookup 'u' = none := by decide
    have point : Binding.Literal.codePoint? 4 (hs ++ rest) = some (octets, after) := by
      simpa [Binding.Literal.escape?, noSign] using found
    obtain ⟨ds, c, length', value', same, _⟩ := Binding.Literal.codePoint?_eq_some_iff.mp point
    have digits : hs = ds := List.append_inj_left same (length.trans length'.symm)
    rw [digits, value'] at value
    exact absurd (Option.some.inj value ▸ leading) (Json.Literal.not_surrogate c).1

theorem shared_of_bodies (json : Json.Literal.Body body vs) (go : GoBody body bs) :
    Shared body := by
  -- The induction is on the literal of JSON, and the reader of Go is run along it.
  have read := Binding.Literal.unquoteFrom_of_body go
  clear go
  induction json generalizing bs with
  | nil => exact .nil
  | @plain c cs vs plain _ ih =>
    rw [List.cons_append, Binding.Literal.unquoteFrom_plain (goPlain_of_plain plain)] at read
    obtain ⟨bs, others, _⟩ := Option.map_eq_some_iff.mp read
    exact .plain plain (ih others)
  | @escape es cs vs v escape _ ih =>
    rw [List.cons_append, List.append_assoc] at read
    cases escape with
    | @sign c v known =>
      by_cases solidus : c = '/'
      · subst solidus
        rw [List.singleton_append, Binding.Literal.unquoteFrom_no_escape (escape?_solidus _)] at read
        cases read
      · have step := Binding.Literal.escape?_append (escape_of_sign known solidus) (cs ++ ['"'])
        rw [Binding.Literal.unquoteFrom_escape step] at read
        obtain ⟨bs, others, _⟩ := Option.map_eq_some_iff.mp read
        exact .sign known solidus (ih others)
    | @unit ds v length value =>
      have step := Binding.Literal.escape?_append (.short length value) (cs ++ ['"'])
      rw [Binding.Literal.unquoteFrom_escape step] at read
      obtain ⟨bs, others, _⟩ := Option.map_eq_some_iff.mp read
      exact .codePoint length value (ih others)
    | @pair hs ls high low highLength lowLength highValue lowValue leading trailing =>
      -- Go has no character for the first surrogate, whatever follows it.
      rw [List.cons_append, List.append_assoc, Binding.Literal.unquoteFrom_no_escape
        (escape?_surrogate highLength highValue leading _)] at read
      cases read

theorem shared_iff :
    Shared body ↔ (∃ vs, Json.Literal.Body body vs) ∧ ∃ bs, GoBody body bs := by
  constructor
  · intro shared
    obtain ⟨vs, json, go⟩ := bodies_of_shared shared
    exact ⟨⟨vs, json⟩, _, go⟩
  · rintro ⟨⟨vs, json⟩, bs, go⟩
    exact shared_of_bodies json go

end

/-- The convention gives a key the literal with this body. -/
def Gives (tag key : String) (body : List Char) : Prop :=
  Convention.find (Text.octets tag) (Text.octets key) = some (Convention.literalOctets body)

section

variable {tag key : String} {body : List Char} {bs : List UInt8}

theorem gives_iff : Gives tag key body ↔ (pairs tag.toList).lookup key.toList = some body := by
  rw [Gives, Convention.find_octets]
  constructor
  · intro found
    obtain ⟨other, pair, same⟩ := Option.map_eq_some_iff.mp found
    have bodies := List.cons_injective (Binding.Literal.utf8_inj.mp same)
    rw [pair, List.append_cancel_right bodies]
  · intro pair
    rw [pair]
    rfl

theorem lookup_eq_some_iff {v : String} :
    lookup tag key = some v ↔ ∃ body, Gives tag key body ∧ Json.Literal.Body body v.toList := by
  simp only [gives_iff, ← literalValue?_eq_some_iff]
  exact Option.bind_eq_some_iff

theorem lookup_of_body {vs : List Char} (gives : Gives tag key body)
    (json : Json.Literal.Body body vs) : lookup tag key = some (String.ofList vs) :=
  lookup_eq_some_iff.mpr ⟨body, gives, by rwa [String.toList_ofList]⟩

theorem Convention.lookup_eq_some_iff :
    Convention.lookup (Text.octets tag) (Text.octets key) = some bs ↔
      ∃ body, Gives tag key body ∧ GoBody body bs := by
  simp only [gives_iff, Convention.lookup_octets, Option.bind_eq_some_iff,
    Binding.Literal.unquote_eq_some_iff, Binding.Literal.denotes_iff_body]

theorem gives_unique {other : List Char} (one : Gives tag key body)
    (another : Gives tag key other) : body = other :=
  Option.some.inj ((gives_iff.mp one).symm.trans (gives_iff.mp another))

theorem agree_of_shared (gives : Gives tag key body) (shared : Shared body) :
    (lookup tag key).map Text.octets =
      Convention.lookup (Text.octets tag) (Text.octets key) := by
  obtain ⟨vs, json, go⟩ := bodies_of_shared shared
  rw [lookup_of_body gives json, Convention.lookup_eq_some_iff.mpr ⟨body, gives, go⟩,
    Option.map_some, Text.octets, String.toList_ofList]
  rfl

theorem agree_of_none (noValue : ∀ body, Gives tag key body →
      (¬ ∃ vs, Json.Literal.Body body vs) ∧ ¬ ∃ bs, GoBody body bs) :
    (lookup tag key).map Text.octets =
      Convention.lookup (Text.octets tag) (Text.octets key) := by
  have noRead : lookup tag key = none := by
    refine Option.eq_none_iff_forall_ne_some.mpr fun v read => ?_
    obtain ⟨body, gives, json⟩ := lookup_eq_some_iff.mp read
    exact (noValue body gives).1 ⟨_, json⟩
  have noAnswer : Convention.lookup (Text.octets tag) (Text.octets key) = none := by
    refine Option.eq_none_iff_forall_ne_some.mpr fun bs answer => ?_
    obtain ⟨body, gives, go⟩ := Convention.lookup_eq_some_iff.mp answer
    exact (noValue body gives).2 ⟨_, go⟩
  rw [noRead, noAnswer, Option.map_none]

theorem shared_or_none_of_agree (gives : Gives tag key body)
    (agree : (lookup tag key).map Text.octets =
      Convention.lookup (Text.octets tag) (Text.octets key)) :
    Shared body ∨ (¬ ∃ vs, Json.Literal.Body body vs) ∧ ¬ ∃ bs, GoBody body bs := by
  by_cases json : ∃ vs, Json.Literal.Body body vs
  · obtain ⟨vs, json⟩ := json
    rw [lookup_of_body gives json, Option.map_some] at agree
    obtain ⟨other, alsoGives, go⟩ := Convention.lookup_eq_some_iff.mp agree.symm
    exact .inl (shared_iff.mpr ⟨⟨vs, json⟩, _, gives_unique gives alsoGives ▸ go⟩)
  · refine .inr ⟨json, ?_⟩
    rintro ⟨bs, go⟩
    rw [Convention.lookup_eq_some_iff.mpr ⟨body, gives, go⟩] at agree
    obtain ⟨v, read, _⟩ := Option.map_eq_some_iff.mp agree
    obtain ⟨other, alsoGives, denoted⟩ := lookup_eq_some_iff.mp read
    exact json ⟨_, gives_unique gives alsoGives ▸ denoted⟩

end

/-- A tag gives a key a literal by the convention, on every text. What is read from it is what it
denotes in JSON, and the convention asks for what it denotes in Go. The answers agree exactly if
the literal is spelt alike in both languages, or is one of neither. -/
theorem lookup_agrees_iff (tag key : String) :
    (∀ v, lookup tag key = some v ↔
      ∃ body, Gives tag key body ∧ Json.Literal.Body body v.toList) ∧
    (∀ bs, Convention.lookup (Text.octets tag) (Text.octets key) = some bs ↔
      ∃ body, Gives tag key body ∧ GoBody body bs) ∧
    ((lookup tag key).map Text.octets =
        Convention.lookup (Text.octets tag) (Text.octets key) ↔
      ∀ body, Gives tag key body →
        Shared body ∨ (¬ ∃ vs, Json.Literal.Body body vs) ∧ ¬ ∃ bs, GoBody body bs) := by
  refine ⟨fun v => lookup_eq_some_iff, fun bs => Convention.lookup_eq_some_iff, ?_⟩
  constructor
  · exact fun agree body gives => shared_or_none_of_agree gives agree
  · intro spelt
    by_cases shared : ∃ body, Gives tag key body ∧ Shared body
    · obtain ⟨body, gives, shared⟩ := shared
      exact agree_of_shared gives shared
    · refine agree_of_none fun body gives => ?_
      exact (spelt body gives).resolve_left fun own => shared ⟨body, gives, own⟩

/-- An escape for an octet, one for a solidus, and a tab that is not escaped. -/
theorem lookup_disagrees :
    (lookup "json:\"\\x6eame\"" "json" = none ∧
      Convention.lookup (Text.octets "json:\"\\x6eame\"") (Text.octets "json") =
        some (Text.octets "name")) ∧
    (lookup "json:\"a\\/b\"" "json" = some "a/b" ∧
      Convention.lookup (Text.octets "json:\"a\\/b\"") (Text.octets "json") = none) ∧
    (lookup "json:\"a\tb\"" "json" = none ∧
      Convention.lookup (Text.octets "json:\"a\tb\"") (Text.octets "json") =
        some (Text.octets "a\tb")) := by
  refine ⟨⟨?_, ?_⟩, ⟨?_, ?_⟩, ?_, ?_⟩ <;> decide +kernel

end TaskSynth.StructTag
