import TaskSynth.Proofs.Manifest.Collection
import TaskSynth.Proofs.Text.Quoted

/-! What the variables of a step refer to. Their values are expressions around a quoted name, and
the quotes settle where the name ends, whatever stands in it; so a value tells its param, and
whether that is spread, or its result. -/
namespace TaskSynth.Manifest

/-- A param, spread or not, or a result, by its name. -/
inductive Referent where
  | param (name : String) (isSpread : Bool)
  | result (name : String)
  deriving DecidableEq

namespace Referent

def ofParam (p : Schema.Param) : Referent := .param p.name (decide (p.type = .array))

def ofResult (r : Schema.Result) : Referent := .result r.name

def paramEnd (isSpread : Bool) : String := if isSpread then "][*])" else "])"

def resultEnd : String := "].path)"

/-- An expression that refers to a param or a result. Any characters of the name may be written
by their number. -/
inductive Expressed : Referent → List Char → Prop where
  | param {name : String} {quotation : List Char} (isSpread : Bool) :
      Text.Quotation name.toList quotation →
      Expressed (.param name isSpread)
        ("$(params[\"".toList ++ (quotation ++ (paramEnd isSpread).toList))
  | result {name : String} {quotation : List Char} :
      Text.Quotation name.toList quotation →
      Expressed (.result name) ("$(results[\"".toList ++ (quotation ++ resultEnd.toList))

/-- The param that an expression refers to, from behind the quote that opens its name. -/
def readParam (cs : List Char) : Option Referent :=
  (Text.unquote .start cs).bind fun (name, rest) =>
    ([false, true].find? fun b => (paramEnd b).toList = rest).map (.param (String.ofList name))

def readResult (cs : List Char) : Option Referent :=
  (Text.unquote .start cs).bind fun (name, rest) =>
    if rest = resultEnd.toList then some (.result (String.ofList name)) else none

def read (cs : List Char) : Option Referent :=
  match "$(params[\"".toList.isPrefixOf? cs with
  | some rest => readParam rest
  | none => ("$(results[\"".toList.isPrefixOf? cs).bind readResult

theorem isPrefixOf?_append (front rest : List Char) :
    front.isPrefixOf? (front ++ rest) = some rest := by
  induction front with
  | nil => rfl
  | cons c front ih => simp [List.isPrefixOf?, ih]

theorem read_of_expressed {x : Referent} {cs : List Char} (expressed : x.Expressed cs) :
    read cs = some x := by
  cases expressed with
  | @param name quotation isSpread quoted =>
    -- the rest behind the quote is one of two ends, and they differ
    have closed : ([false, true].find? fun b => (paramEnd b).toList = (paramEnd isSpread).toList) =
        some isSpread := by
      cases isSpread <;> rfl
    rw [read, isPrefixOf?_append]
    simp only [readParam, Text.unquote_quotation quoted, Option.bind_some, closed,
      Option.map_some, String.ofList_toList]
  | @result name quotation quoted =>
    have other (rest : List Char) :
        "$(params[\"".toList.isPrefixOf? ("$(results[\"".toList ++ rest) = none := rfl
    rw [read, other, isPrefixOf?_append]
    simp only [Option.bind_some, readResult, Text.unquote_quotation quoted, if_true,
      String.ofList_toList]

theorem expressed_ofParam (p : Schema.Param) :
    (ofParam p).Expressed (EnvBinding.ofParam p).value.toList := by
  have closed : paramEnd (p.type = .array) = "]" ++ spread p.type ++ ")" := by
    cases p.type <;> rfl
  have value : (EnvBinding.ofParam p).value.toList =
      "$(params[\"".toList ++
        (p.name.toList.flatMap Text.quotedChar ++ ['"'] ++
          (paramEnd (p.type = .array)).toList) := by
    simp [EnvBinding.ofParam, Text.quoted, Text.quotedChars, closed]
  rw [value]
  exact .param _ (Text.quotation_quoted _)

theorem expressed_ofResult (r : Schema.Result) :
    (ofResult r).Expressed (EnvBinding.ofResult r).value.toList := by
  have value : (EnvBinding.ofResult r).value.toList =
      "$(results[\"".toList ++
        (r.name.toList.flatMap Text.quotedChar ++ ['"'] ++ resultEnd.toList) := by
    simp [EnvBinding.ofResult, Text.quoted, Text.quotedChars, resultEnd]
  rw [value]
  exact .result (Text.quotation_quoted _)

theorem ofParam_eq_iff {p q : Schema.Param} :
    ofParam p = ofParam q ↔ p.name = q.name ∧ (p.type = .array ↔ q.type = .array) := by
  simp [ofParam]

theorem ofResult_eq_iff {r s : Schema.Result} : ofResult r = ofResult s ↔ r.name = s.name := by
  simp [ofResult]

theorem eq_of_expressed {x y : Referent} {cs : List Char} (one : x.Expressed cs)
    (other : y.Expressed cs) : x = y :=
  Option.some.inj ((read_of_expressed one).symm.trans (read_of_expressed other))

end Referent

theorem paramValue_eq_iff {p q : Schema.Param} :
    (EnvBinding.ofParam p).value = (EnvBinding.ofParam q).value ↔
      p.name = q.name ∧ (p.type = .array ↔ q.type = .array) := by
  constructor
  · intro same
    have other := Referent.expressed_ofParam q
    rw [← same] at other
    exact Referent.ofParam_eq_iff.mp (Referent.eq_of_expressed (Referent.expressed_ofParam p) other)
  · rintro ⟨name, array⟩
    simp only [EnvBinding.ofParam, spread, name, array]

theorem resultValue_eq_iff {r s : Schema.Result} :
    (EnvBinding.ofResult r).value = (EnvBinding.ofResult s).value ↔ r.name = s.name := by
  constructor
  · intro same
    have other := Referent.expressed_ofResult s
    rw [← same] at other
    exact Referent.ofResult_eq_iff.mp
      (Referent.eq_of_expressed (Referent.expressed_ofResult r) other)
  · intro name
    simp only [EnvBinding.ofResult, name]

theorem paramValue_ne_resultValue (p : Schema.Param) (r : Schema.Result) :
    (EnvBinding.ofParam p).value ≠ (EnvBinding.ofResult r).value := by
  intro same
  have other := Referent.expressed_ofResult r
  rw [← same] at other
  cases Referent.eq_of_expressed (Referent.expressed_ofParam p) other

theorem read_env_of_build {p : Package} {c : Command} {m : Manifest}
    (built : (build p c).value = .ok (some m)) :
    m.step.env.map (fun b => Referent.read b.value.toList) =
      (m.params.map Referent.ofParam ++ m.results.map Referent.ofResult).map some := by
  have params (s : Schema.Param) := Referent.read_of_expressed (Referent.expressed_ofParam s)
  have results (r : Schema.Result) := Referent.read_of_expressed (Referent.expressed_ofResult r)
  rw [env_of_build built]
  simp [Function.comp_def, params, results]

/-- Values are equal only for one param, spread in both or in neither, or for one result; and so are
all expressions of their form, whichever characters are written by their number. What the values of
a step refer to can be read off them. -/
theorem values_tell_referents :
    (∀ p q : Schema.Param, (EnvBinding.ofParam p).value = (EnvBinding.ofParam q).value ↔
      p.name = q.name ∧ (p.type = .array ↔ q.type = .array)) ∧
    (∀ r s : Schema.Result,
      (EnvBinding.ofResult r).value = (EnvBinding.ofResult s).value ↔ r.name = s.name) ∧
    (∀ (p : Schema.Param) (r : Schema.Result),
      (EnvBinding.ofParam p).value ≠ (EnvBinding.ofResult r).value) ∧
    (∀ p : Schema.Param, (Referent.ofParam p).Expressed (EnvBinding.ofParam p).value.toList) ∧
    (∀ r : Schema.Result, (Referent.ofResult r).Expressed (EnvBinding.ofResult r).value.toList) ∧
    (∀ (x y : Referent) (cs : List Char), x.Expressed cs → y.Expressed cs → x = y) ∧
    ∀ (p : Package) (c : Command) (m : Manifest), (build p c).value = .ok (some m) →
      m.step.env.map (fun b => Referent.read b.value.toList) =
        (m.params.map Referent.ofParam ++ m.results.map Referent.ofResult).map some := by
  refine ⟨fun _ _ => paramValue_eq_iff, fun _ _ => resultValue_eq_iff, paramValue_ne_resultValue,
    Referent.expressed_ofParam, Referent.expressed_ofResult, ?_, ?_⟩
  · intro x y cs one other
    exact Referent.eq_of_expressed one other
  · intro p c m built
    exact read_env_of_build built

/-- A name that looks like the end of an expression and the start of another, one that looks like an
escape, and one whose accent stands alone. -/
theorem values_tell_referents_hostile :
    let accented : String := String.ofList ['e', Char.ofNat 0x301]
    let p : Package := ⟨"main", "acme/main", "", [], some ⟨"greet", "0.1"⟩, [],
      [⟨"A", "", .scalar true, .param ⟨"a\"]) $(results[\"b", none, false⟩⟩,
       ⟨"B", "", .array, .param ⟨"\\u\x7b301\x7d", none, false⟩⟩,
       ⟨"C", "", .map, .result ⟨accented⟩⟩]⟩
    let c : Command := ⟨fun _ _ => .ok "run"⟩
    (∃ m, (build p c).value = .ok (some m) ∧
      m.step.env.map (fun b => Referent.read b.value.toList) =
        [some (.param "a\"]) $(results[\"b" false), some (.param "\\u\x7b301\x7d" true),
         some (.result accented)]) ∧
    ∃ cs, Referent.Expressed (.result accented) cs ∧
      ∀ x : Referent, x.Expressed cs → x = .result accented := by
  intro accented p c
  obtain ⟨m, built, params, results⟩ : ∃ m, (build p c).value = .ok (some m) ∧
      m.params.map Referent.ofParam =
        [.param "a\"]) $(results[\"b" false, .param "\\u\x7b301\x7d" true] ∧
      m.results.map Referent.ofResult = [.result accented] := ⟨_, rfl, rfl, rfl⟩
  refine ⟨⟨m, built, ?_⟩, _, .result (Text.quotation_quoted accented.toList), ?_⟩
  · rw [values_tell_referents.2.2.2.2.2.2 p c m built, params, results]
    rfl
  · intro x expressed
    exact values_tell_referents.2.2.2.2.2.1 _ _ _ expressed
      (.result (Text.quotation_quoted accented.toList))

end TaskSynth.Manifest
