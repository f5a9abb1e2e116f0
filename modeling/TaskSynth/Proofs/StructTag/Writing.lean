import TaskSynth.Proofs.StructTag.Pairs

namespace TaskSynth.StructTag

structure Entry where
  spaces : Nat
  key : String
  value : String

/-- What may stand before the colon of a pair: some characters, and no control character, space,
colon or quote among them. -/
structure ValidKey (key : String) : Prop where
  nonempty : key ≠ ""
  printable : ∀ c ∈ key.toList, 0x20 < c.toNat ∧ c.toNat ≠ 0x7f
  marks : ∀ c ∈ key.toList, c ≠ ':' ∧ c ≠ '"'

instance : DecidablePred ValidKey := fun key =>
  decidable_of_iff
    (key ≠ "" ∧ key.toList.all (fun c => 0x20 < c.toNat ∧ c.toNat ≠ 0x7f) ∧
      key.toList.all fun c => c ≠ ':' ∧ c ≠ '"')
    ⟨fun ⟨nonempty, printable, marks⟩ =>
        ⟨nonempty, by simpa using printable, by simpa using marks⟩,
      fun valid => ⟨valid.nonempty, by simpa using valid.printable, by simpa using valid.marks⟩⟩

def Entry.chars (x : Entry) : List Char :=
  List.replicate x.spaces ' ' ++ (x.key.toList ++ ':' :: Json.literal x.value.toList)

/-- The tag of some pairs, with spaces after the last one. -/
def write (entries : List Entry) (spaces : Nat) : String :=
  String.ofList (entries.flatMap Entry.chars ++ List.replicate spaces ' ')

section

variable {tag key value : String} {entries : List Entry}

theorem ValidKey.isKey (valid : ValidKey key) : IsKey key.toList := by
  refine ⟨fun none => valid.nonempty (String.toList_eq_nil_iff.mp none), fun c member => ?_⟩
  obtain ⟨above, notDelete⟩ := valid.printable c member
  obtain ⟨colon, quote⟩ := valid.marks c member
  have space : ' ' < c := above
  have delete : c ≠ '\x7f' := by
    rintro rfl
    exact notDelete rfl
  simp [isKeyChar, space, colon, quote, delete]

def Entry.pair (x : Entry) : List Char × List Char :=
  (x.key.toList, x.value.toList.flatMap Json.escapedChar)

theorem nextPair?_chars (x : Entry) (valid : ValidKey x.key) (rest : List Char) :
    nextPair? (x.chars ++ rest) =
      some (x.key.toList, x.value.toList.flatMap Json.escapedChar, rest) := by
  have inner : Inner (x.value.toList.flatMap Json.escapedChar) :=
    inner_of_body (Json.Literal.body_flatMap_escapedChar x.value.toList)
  rw [← nextPair?_of_key x.spaces valid.isKey inner rest]
  simp only [Entry.chars, Json.literal, List.append_assoc, List.cons_append, List.nil_append]

theorem pairs_write (valid : ∀ x ∈ entries, ValidKey x.key) (spaces : Nat) :
    pairs (write entries spaces).toList = entries.map Entry.pair := by
  rw [write, String.toList_ofList]
  induction entries with
  | nil => exact pairs_of_malformed (nextPair?_replicate spaces)
  | cons x rest ih =>
    obtain ⟨own, others⟩ := List.forall_mem_cons.mp valid
    rw [List.flatMap_cons, List.append_assoc, pairs_of_nextPair? (nextPair?_chars x own _),
      ih others, List.map_cons]
    rfl

theorem literalValue?_escaped (s : String) :
    literalValue? (s.toList.flatMap Json.escapedChar) = some s :=
  literalValue?_eq_some_iff.mpr (Json.Literal.body_flatMap_escapedChar s.toList)

theorem lookup_map_pair (entries : List Entry) (key : String) :
    (entries.map Entry.pair).lookup key.toList >>= literalValue? =
      (entries.find? (·.key = key)).map (·.value) := by
  induction entries with
  | nil => rfl
  | cons x rest ih =>
    rw [List.map_cons, Entry.pair, List.lookup_cons, List.find?_cons]
    by_cases same : x.key = key
    · simp [same, literalValue?_escaped]
    · have apart : (key.toList == x.key.toList) = false := by
        rw [beq_eq_false_iff_ne]
        exact fun chars => same (String.toList_inj.mp chars).symm
      simpa [same, apart] using ih

theorem lookup_of_append (found : lookup tag key = some value) (more : String) :
    lookup (tag ++ more) key = some value := by
  obtain ⟨body, pair, read⟩ := Option.bind_eq_some_iff.mp found
  obtain ⟨others, whole⟩ := pairs_prefix_append tag.toList more.toList
  rw [lookup, String.toList_append, ← whole, List.lookup_append, pair, Option.some_or]
  exact read

end

/-- Lookup undoes writing: whatever spaces stand before, between and after the pairs, a key has the
value of the first pair with this key, or none if there is no such pair. A value that a tag has for
a key, however the tag came about, stays if text is appended. -/
theorem lookup_write :
    (∀ entries spaces, (∀ x ∈ entries, ValidKey x.key) → ∀ key,
      lookup (write entries spaces) key = (entries.find? (·.key = key)).map (·.value)) ∧
    ∀ tag key value more, lookup tag key = some value →
      lookup (tag ++ more) key = some value := by
  constructor
  · intro entries spaces valid key
    rw [lookup, pairs_write valid, lookup_map_pair]
  · intro tag key value more found
    exact lookup_of_append found more

/-- A key beyond ASCII whose value ends in a backslash, a key that is repeated, and a tag that is
cut off after it. -/
theorem lookup_write_repeated :
    let entries : List Entry :=
      [⟨2, "größe", "a\"b\\"⟩, ⟨0, "json", "naïve,\t"⟩, ⟨1, "json", "later"⟩]
    let tag := write entries 1
    tag = "  größe:\"a\\\"b\\\\\"json:\"naïve,\\t\" json:\"later\" " ∧
    lookup tag "größe" = some "a\"b\\" ∧ lookup tag "json" = some "naïve,\t" ∧
    lookup tag "xml" = none ∧ lookup (tag ++ "json:\"") "json" = some "naïve,\t" := by
  intro entries tag
  obtain ⟨written, appended⟩ := lookup_write
  have valid : ∀ x ∈ entries, ValidKey x.key := by decide
  have json : lookup tag "json" = some "naïve,\t" := written entries 1 valid "json"
  exact ⟨by decide, written entries 1 valid "größe", json, written entries 1 valid "xml",
    appended tag "json" _ "json:\"" json⟩

end TaskSynth.StructTag
