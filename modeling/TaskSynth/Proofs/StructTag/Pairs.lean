import Mathlib.Data.List.TakeWhile
import TaskSynth.Proofs.Json.Literal
import TaskSynth.StructTag

namespace TaskSynth.StructTag

/-- Text without a quote, but for those that follow a backslash. -/
inductive Inner : List Char → Prop where
  | nil : Inner []
  | plain {c : Char} {cs : List Char} (quote : c ≠ '"') (backslash : c ≠ '\\') (rest : Inner cs) :
      Inner (c :: cs)
  | escaped (c : Char) {cs : List Char} (rest : Inner cs) : Inner ('\\' :: c :: cs)

section

variable {cs ds es vs key body rest tag : List Char} {v : Char} {n : Nat}

theorem Inner.append (front : Inner body) (back : Inner cs) : Inner (body ++ cs) := by
  induction front with
  | nil => exact back
  | plain quote backslash _ ih => exact .plain quote backslash ih
  | escaped c _ ih => exact .escaped c ih

theorem inner_of_natural? (value : Decimal.natural? 16 ds = some n) : Inner ds := by
  have plain : ∀ c ∈ ds, c ≠ '"' ∧ c ≠ '\\' := by
    intro c member
    obtain ⟨_, digit⟩ := Decimal.digitIn?_of_natural? member value
    constructor <;> rintro rfl <;> cases digit
  clear value
  induction ds with
  | nil => exact .nil
  | cons c ds ih =>
    obtain ⟨own, others⟩ := List.forall_mem_cons.mp plain
    exact .plain own.1 own.2 (ih others)

theorem inner_of_escape (escape : Json.Literal.Escape es v) : Inner ('\\' :: es) := by
  cases escape with
  | sign _ => exact .escaped _ .nil
  | unit _ value => exact .escaped 'u' (inner_of_natural? value)
  | pair _ _ highValue lowValue _ _ =>
    exact .escaped 'u' ((inner_of_natural? highValue).append
      (.escaped 'u' (inner_of_natural? lowValue)))

/-- What stands in a literal of JSON can be cut out of a tag. -/
theorem inner_of_body (denoted : Json.Literal.Body body vs) : Inner body := by
  induction denoted with
  | nil => exact .nil
  | plain plain _ ih => exact .plain plain.quote plain.backslash ih
  | escape escape _ ih => exact (inner_of_escape escape).append ih

theorem closeQuote_of_inner (inner : Inner body) (rest : List Char) :
    closeQuote (body ++ '"' :: rest) = some (body, rest) := by
  induction inner with
  | nil => simp [closeQuote]
  | @plain c cs quote backslash _ ih =>
    rw [List.cons_append, closeQuote.eq_4 _ _ (by simp) (by simp [backslash]), ih]
    simp [quote]
  | escaped c _ ih => simp [closeQuote, ih]

theorem closeQuote_eq_some_iff :
    closeQuote cs = some (body, rest) ↔ Inner body ∧ cs = body ++ '"' :: rest := by
  constructor
  · fun_induction closeQuote cs generalizing body rest with
    | case1 => exact nofun
    | case2 => exact nofun
    | case3 c cs ih =>
      intro closed
      obtain ⟨⟨inside, after⟩, found, same⟩ := Option.map_eq_some_iff.mp closed
      cases same
      obtain ⟨inner, rfl⟩ := ih found
      exact ⟨.escaped c inner, rfl⟩
    | case4 c cs _ _ quote =>
      intro closed
      cases closed
      exact ⟨.nil, by rw [eq_of_beq quote]; rfl⟩
    | case5 c cs alone escaped quote ih =>
      intro closed
      have backslash : c ≠ '\\' := by
        rintro rfl
        cases cs with
        | nil => exact alone rfl rfl
        | cons d others => exact escaped d others rfl rfl
      obtain ⟨⟨inside, after⟩, found, same⟩ := Option.map_eq_some_iff.mp closed
      cases same
      obtain ⟨inner, rfl⟩ := ih found
      exact ⟨.plain (by simpa using quote) backslash inner, rfl⟩
  · rintro ⟨inner, rfl⟩
    exact closeQuote_of_inner inner rest

/-- A key has characters, and each of them may stand in a key. -/
structure IsKey (key : List Char) : Prop where
  nonempty : key ≠ []
  chars : ∀ c ∈ key, isKeyChar c = true

theorem nextPair?_of_key (spaces : Nat) (isKey : IsKey key) (inner : Inner body)
    (rest : List Char) :
    nextPair? (List.replicate spaces ' ' ++ (key ++ ':' :: '"' :: (body ++ '"' :: rest))) =
      some (key, body, rest) := by
  obtain ⟨c, others, rfl⟩ := List.exists_cons_of_ne_nil isKey.nonempty
  have noSpace : (c == ' ') = false := by
    rw [beq_eq_false_iff_ne]
    rintro rfl
    exact absurd (isKey.chars ' ' List.mem_cons_self) (by decide)
  have skipped : ∀ after, (List.replicate spaces ' ' ++ (c :: others ++ after)).dropWhile
      (· == ' ') = c :: others ++ after := by
    intro after
    rw [List.dropWhile_append_of_pos (by simp), List.cons_append, List.dropWhile_cons_of_neg]
    simp [noSpace]
  have taken : ∀ after, (c :: others ++ ':' :: after).takeWhile isKeyChar = c :: others := by
    intro after
    rw [List.takeWhile_append_of_pos isKey.chars, List.takeWhile_cons_of_neg (by decide),
      List.append_nil]
  have dropped : ∀ after, (c :: others ++ ':' :: after).dropWhile isKeyChar = ':' :: after := by
    intro after
    rw [List.dropWhile_append_of_pos isKey.chars, List.dropWhile_cons_of_neg (by decide)]
  simp only [nextPair?, skipped, taken, dropped, closeQuote_of_inner inner, Option.map_some]

theorem nextPair?_eq_some_iff :
    nextPair? tag = some (key, body, rest) ↔
      IsKey key ∧ Inner body ∧
        ∃ spaces, tag =
          List.replicate spaces ' ' ++ (key ++ ':' :: '"' :: (body ++ '"' :: rest)) := by
  constructor
  · fun_cases nextPair? tag with
    | case1 => exact nofun
    | case2 text quoted after someKey =>
      intro next
      obtain ⟨⟨inside, left⟩, closed, same⟩ := Option.map_eq_some_iff.mp next
      cases same
      obtain ⟨inner, rfl⟩ := closeQuote_eq_some_iff.mp closed
      refine ⟨⟨someKey, fun c => List.mem_takeWhile_imp⟩, inner,
        (tag.takeWhile (· == ' ')).length, ?_⟩
      have blank : ∀ c ∈ tag.takeWhile (· == ' '), c = ' ' := fun c member =>
        eq_of_beq (List.mem_takeWhile_imp (p := (· == ' ')) member)
      rw [← List.eq_replicate_of_mem blank, ← after, List.takeWhile_append_dropWhile,
        List.takeWhile_append_dropWhile]
    | case3 => exact nofun
  · rintro ⟨isKey, inner, spaces, rfl⟩
    exact nextPair?_of_key spaces isKey inner rest

theorem length_of_nextPair? (next : nextPair? tag = some (key, body, rest)) :
    rest.length < tag.length := by
  obtain ⟨_, _, spaces, rfl⟩ := nextPair?_eq_some_iff.mp next
  simp only [List.length_append, List.length_cons]
  omega

theorem nextPair?_append (next : nextPair? tag = some (key, body, rest)) (more : List Char) :
    nextPair? (tag ++ more) = some (key, body, rest ++ more) := by
  obtain ⟨isKey, inner, spaces, rfl⟩ := nextPair?_eq_some_iff.mp next
  rw [← nextPair?_of_key spaces isKey inner]
  simp only [List.append_assoc, List.cons_append]

theorem nextPair?_replicate (spaces : Nat) : nextPair? (List.replicate spaces ' ') = none := by
  have blank : (List.replicate spaces ' ').dropWhile (· == ' ') = [] := by simp
  simp [nextPair?, blank]

theorem pairsFrom_nil (fuel : Nat) : pairsFrom fuel [] = [] := by
  cases fuel <;> rfl

theorem pairsFrom_eq_of_length_le {fuel fuel' : Nat} (enough : tag.length ≤ fuel)
    (enough' : tag.length ≤ fuel') : pairsFrom fuel tag = pairsFrom fuel' tag := by
  induction fuel generalizing fuel' tag with
  | zero =>
    obtain rfl := List.eq_nil_of_length_eq_zero (Nat.le_zero.mp enough)
    rw [pairsFrom_nil, pairsFrom_nil]
  | succ fuel ih =>
    cases fuel' with
    | zero =>
      obtain rfl := List.eq_nil_of_length_eq_zero (Nat.le_zero.mp enough')
      rw [pairsFrom_nil, pairsFrom_nil]
    | succ fuel' =>
      rw [pairsFrom, pairsFrom]
      cases next : nextPair? tag with
      | none => rfl
      | some pair =>
        obtain ⟨key, body, rest⟩ := pair
        have shorter := length_of_nextPair? next
        have tails : pairsFrom fuel rest = pairsFrom fuel' rest := ih (by omega) (by omega)
        simp only [tails]

theorem pairs_of_malformed (malformed : nextPair? tag = none) : pairs tag = [] := by
  unfold pairs
  cases tag.length with
  | zero => rfl
  | succ fuel => rw [pairsFrom, malformed]

theorem pairs_of_nextPair? (next : nextPair? tag = some (key, body, rest)) :
    pairs tag = (key, body) :: pairs rest := by
  have shorter := length_of_nextPair? next
  obtain ⟨fuel, size⟩ := Nat.exists_eq_succ_of_ne_zero (Nat.ne_zero_of_lt shorter)
  have tails : pairsFrom fuel rest = pairs rest :=
    pairsFrom_eq_of_length_le (by omega) (Nat.le_refl _)
  rw [pairs, size, pairsFrom, next]
  simp only [tails]

theorem pairs_prefix_append (tag more : List Char) : pairs tag <+: pairs (tag ++ more) := by
  cases next : nextPair? tag with
  | none =>
    rw [pairs_of_malformed next]
    exact List.nil_prefix
  | some pair =>
    obtain ⟨key, body, rest⟩ := pair
    rw [pairs_of_nextPair? next, pairs_of_nextPair? (nextPair?_append next more)]
    exact (List.prefix_cons_inj _).mpr (pairs_prefix_append rest more)
termination_by tag.length
decreasing_by exact length_of_nextPair? next

theorem literalValue?_eq_some_iff {s : String} :
    literalValue? body = some s ↔ Json.Literal.Body body s.toList := by
  rw [← Json.Literal.whole_readString_eq_ok_iff, literalValue?]
  cases Json.whole Json.readString (body ++ ['"']) <;> simp

end

end TaskSynth.StructTag
