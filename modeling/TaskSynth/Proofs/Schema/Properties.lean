import Mathlib.Data.List.Nodup
import Mathlib.Data.List.TakeWhile
import TaskSynth.Proofs.Outcome
import TaskSynth.Schema

/-! The properties of a strict struct. A field stands for the key that its tag has before the first
comma, or is left out. There are properties exactly if every field has a tag and the keys are
names that differ; else the first field that breaks this is the one that the error is about. -/
namespace TaskSynth.Schema

open Outcome

/-- A text up to its first comma, or all of a text that has none. -/
def BeforeComma (text part : String) : Prop :=
  ',' ∉ part.toList ∧ (text = part ∨ ∃ rest, text = part ++ "," ++ rest)

/-- A field that is not left out stands for a key. -/
def StandsFor (f : FieldDecl) (key : String) : Prop :=
  ∃ tag, f.jsonTag = some tag ∧ tag ≠ "-" ∧ BeforeComma tag key

def key? (f : FieldDecl) : Option String := (f.jsonTag.filter (· ≠ "-")).map tagName

/-- The keys of the fields that are not left out, in declaration order. -/
def keys (fields : List FieldDecl) : List String := fields.filterMap key?

inductive FieldFault (param : String) (before : List String) (f : FieldDecl) : Error → Prop where
  | missing (noTag : f.jsonTag = none) : FieldFault param before f (.missingJsonTag param f.name)
  | empty (unnamed : StandsFor f "") : FieldFault param before f (.emptyJsonTagName param f.name)
  | repeated {key : String} (own : StandsFor f key) (named : key ≠ "") (again : key ∈ before) :
      FieldFault param before f (.duplicateJsonTag param key)

/-- Something is wrong with a field, and with none before it. -/
def FirstFault (param : String) (fields : List FieldDecl) (e : Error) : Prop :=
  ∃ front f back, fields = front ++ f :: back ∧ FieldFault param (keys front) f e ∧
    ∀ front' g back' e', front = front' ++ g :: back' → ¬ FieldFault param (keys front') g e'

structure Fit (taken : List String) (fields : List FieldDecl) : Prop where
  tagged : ∀ f ∈ fields, f.jsonTag ≠ none
  named : ∀ k ∈ keys fields, k ≠ ""
  distinct : (keys fields).Nodup
  fresh : ∀ k ∈ keys fields, k ∉ taken

section

variable {param tag key : String} {taken : List String} {f : FieldDecl}
  {rest front back fields : List FieldDecl} {e : Error}

theorem beforeComma_iff : BeforeComma tag key ↔ tagName tag = key := by
  unfold BeforeComma tagName
  constructor
  · rintro ⟨noComma, cut⟩
    have own : ∀ c ∈ key.toList, (c != ',') = true := by
      intro c member
      rw [bne_iff_ne]
      rintro rfl
      exact noComma member
    rcases cut with rfl | ⟨rest, rfl⟩
    · rw [List.takeWhile_eq_self_iff.mpr own, String.ofList_toList]
    · simp [List.takeWhile_append_of_pos own]
  · rintro rfl
    rw [String.toList_ofList]
    refine ⟨fun member => absurd (List.mem_takeWhile_imp member) (by decide), ?_⟩
    have whole := List.takeWhile_append_dropWhile (p := (· != ',')) (l := tag.toList)
    cases left : tag.toList.dropWhile (· != ',') with
    | nil =>
      rw [left, List.append_nil] at whole
      left
      rw [whole, String.ofList_toList]
    | cons c others =>
      have comma : c = ',' := by
        have some_left : tag.toList.dropWhile (· != ',') ≠ [] := by simp [left]
        simpa [left] using List.head_dropWhile_not (· != ',') some_left
      right
      refine ⟨String.ofList others, String.toList_inj.mp ?_⟩
      rw [left, comma] at whole
      simpa using whole.symm

theorem key?_eq_some_iff : key? f = some key ↔ StandsFor f key := by
  simp only [key?, StandsFor, Option.map_eq_some_iff, Option.filter_eq_some_iff,
    decide_eq_true_eq, beforeComma_iff, and_assoc]

theorem keys_append (front back : List FieldDecl) : keys (front ++ back) = keys front ++ keys back :=
  List.filterMap_append

theorem keys_cons_of_some (own : key? f = some key) : keys (f :: rest) = key :: keys rest :=
  List.filterMap_cons_some own

theorem keys_cons_of_none (out : key? f = none) : keys (f :: rest) = keys rest :=
  List.filterMap_cons_none out

theorem propertyNames_cons (param : String) (taken : List String) (f : FieldDecl)
    (rest : List FieldDecl) :
    (f.jsonTag = none ∧ key? f = none ∧
      propertyNames param taken (f :: rest) = .error (.missingJsonTag param f.name)) ∨
    (f.jsonTag = some "-" ∧ key? f = none ∧
      propertyNames param taken (f :: rest) = propertyNames param taken rest) ∨
    ∃ key, f.jsonTag ≠ none ∧ key? f = some key ∧
      propertyNames param taken (f :: rest) =
        if key = "" then .error (.emptyJsonTagName param f.name)
        else if key ∈ taken then .error (.duplicateJsonTag param key)
        else (propertyNames param (key :: taken) rest).map (key :: ·) := by
  cases tag : f.jsonTag with
  | none => exact .inl ⟨rfl, by simp [key?, tag], by simp [propertyNames, tag]⟩
  | some tag' =>
    right
    by_cases dash : tag' = "-"
    · exact .inl ⟨by rw [dash], by simp [key?, tag, dash], by simp [propertyNames, tag, dash]⟩
    · exact .inr ⟨tagName tag', by simp, by simp [key?, tag, dash],
        by simp [propertyNames, tag, dash]⟩

theorem fit_nil : Fit taken [] := ⟨by simp, by simp [keys], List.nodup_nil, by simp [keys]⟩

theorem fit_cons_of_none (tagged : f.jsonTag ≠ none) (out : key? f = none) :
    Fit taken (f :: rest) ↔ Fit taken rest := by
  constructor
  · rintro ⟨others, named, distinct, fresh⟩
    rw [keys_cons_of_none out] at named distinct fresh
    exact ⟨(List.forall_mem_cons.mp others).2, named, distinct, fresh⟩
  · rintro ⟨others, named, distinct, fresh⟩
    rw [← keys_cons_of_none out] at named distinct fresh
    exact ⟨List.forall_mem_cons.mpr ⟨tagged, others⟩, named, distinct, fresh⟩

theorem fit_cons_of_some (tagged : f.jsonTag ≠ none) (own : key? f = some key) :
    Fit taken (f :: rest) ↔ key ≠ "" ∧ key ∉ taken ∧ Fit (key :: taken) rest := by
  constructor
  · rintro ⟨others, named, distinct, fresh⟩
    rw [keys_cons_of_some own] at named distinct fresh
    rw [List.forall_mem_cons] at others named fresh
    obtain ⟨once, distinct⟩ := List.nodup_cons.mp distinct
    refine ⟨named.1, fresh.1, others.2, named.2, distinct, ?_⟩
    rintro k member (_ | ⟨_, known⟩)
    · exact once member
    · exact fresh.2 k member known
  · rintro ⟨nonempty, new, others, named, distinct, fresh⟩
    have once : key ∉ keys rest := fun member => fresh key member List.mem_cons_self
    constructor
    · exact List.forall_mem_cons.mpr ⟨tagged, others⟩
    · rw [keys_cons_of_some own]
      exact List.forall_mem_cons.mpr ⟨nonempty, named⟩
    · rw [keys_cons_of_some own]
      exact List.nodup_cons.mpr ⟨once, distinct⟩
    · rw [keys_cons_of_some own]
      exact List.forall_mem_cons.mpr
        ⟨new, fun k member known => fresh k member (List.mem_cons_of_mem _ known)⟩

theorem propertyNames_eq_ok_iff {names : List String} :
    propertyNames param taken fields = .ok names ↔ Fit taken fields ∧ names = keys fields := by
  induction fields generalizing taken names with
  | nil => simp [propertyNames, fit_nil, keys, eq_comm]
  | cons f rest ih =>
    rcases propertyNames_cons param taken f rest with
      ⟨noTag, _, step⟩ | ⟨dash, out, step⟩ | ⟨key, tagged, own, step⟩
    · rw [step]
      refine iff_of_false nofun ?_
      rintro ⟨fit, _⟩
      exact fit.tagged f List.mem_cons_self noTag
    · rw [step, ih, fit_cons_of_none (by simp [dash]) out, keys_cons_of_none out]
    · rw [step, fit_cons_of_some tagged own, keys_cons_of_some own]
      by_cases empty : key = ""
      · simp [empty]
      · by_cases known : key ∈ taken
        · simp [empty, known]
        · rw [if_neg empty, if_neg known, map_eq_ok_iff]
          constructor
          · rintro ⟨others, later, rfl⟩
            obtain ⟨fit, rfl⟩ := ih.mp later
            exact ⟨⟨empty, known, fit⟩, rfl⟩
          · rintro ⟨⟨_, _, fit⟩, rfl⟩
            exact ⟨keys rest, ih.mpr ⟨fit, rfl⟩, rfl⟩

theorem propertyNames_append (fit : Fit taken front) (back : List FieldDecl) :
    propertyNames param taken (front ++ back) =
      (propertyNames param ((keys front).reverse ++ taken) back).map (keys front ++ ·) := by
  induction front generalizing taken with
  | nil => cases outcome : propertyNames param taken back <;> simp [keys, outcome]
  | cons f rest ih =>
    rcases propertyNames_cons param taken f (rest ++ back) with
      ⟨noTag, _, _⟩ | ⟨dash, out, step⟩ | ⟨key, tagged, own, step⟩
    · exact absurd noTag (fit.tagged f List.mem_cons_self)
    · have others := (fit_cons_of_none (by simp [dash]) out).mp fit
      rw [List.cons_append, step, ih others, keys_cons_of_none out]
    · obtain ⟨nonempty, new, others⟩ := (fit_cons_of_some tagged own).mp fit
      rw [List.cons_append, step, if_neg nonempty, if_neg new, ih others, keys_cons_of_some own,
        List.reverse_cons, List.append_assoc, List.singleton_append]
      cases propertyNames param ((keys rest).reverse ++ key :: taken) back <;> rfl

theorem propertyNames_cons_of_fault (fault : FieldFault param taken f e)
    (rest : List FieldDecl) : propertyNames param taken (f :: rest) = .error e := by
  rcases propertyNames_cons param taken f rest with
    ⟨noTag, out, step⟩ | ⟨dash, out, step⟩ | ⟨key, tagged, own, step⟩
  · cases fault with
    | missing _ => exact step
    | empty unnamed => cases out.symm.trans (key?_eq_some_iff.mpr unnamed)
    | repeated own _ _ => cases out.symm.trans (key?_eq_some_iff.mpr own)
  · cases fault with
    | missing noTag => cases dash.symm.trans noTag
    | empty unnamed => cases out.symm.trans (key?_eq_some_iff.mpr unnamed)
    | repeated own _ _ => cases out.symm.trans (key?_eq_some_iff.mpr own)
  · cases fault with
    | missing noTag => exact absurd noTag tagged
    | empty unnamed =>
      cases own.symm.trans (key?_eq_some_iff.mpr unnamed)
      exact step
    | repeated own' named again =>
      cases own.symm.trans (key?_eq_some_iff.mpr own')
      rw [step, if_neg named, if_pos again]

theorem FieldFault.of_reverse (fault : FieldFault param taken.reverse f e) :
    FieldFault param taken f e := by
  cases fault with
  | missing noTag => exact .missing noTag
  | empty unnamed => exact .empty unnamed
  | repeated own named again => exact .repeated own named (List.mem_reverse.mp again)

theorem fault_of_propertyNames (failed : propertyNames param taken fields = .error e) :
    ∃ front f back, fields = front ++ f :: back ∧ Fit taken front ∧
      FieldFault param ((keys front).reverse ++ taken) f e := by
  induction fields generalizing taken with
  | nil => cases failed
  | cons f rest ih =>
    rcases propertyNames_cons param taken f rest with
      ⟨noTag, _, step⟩ | ⟨dash, out, step⟩ | ⟨key, tagged, own, step⟩
    · rw [step] at failed
      cases failed
      exact ⟨[], f, rest, rfl, fit_nil, .missing noTag⟩
    · rw [step] at failed
      obtain ⟨front, g, back, rfl, fit, fault⟩ := ih failed
      refine ⟨f :: front, g, back, rfl, (fit_cons_of_none (by simp [dash]) out).mpr fit, ?_⟩
      rwa [keys_cons_of_none out]
    · have stands := key?_eq_some_iff.mp own
      rw [step] at failed
      split at failed
      · next empty =>
        cases failed
        exact ⟨[], f, rest, rfl, fit_nil, .empty (empty ▸ stands)⟩
      · next nonempty =>
        split at failed
        · next known =>
          cases failed
          exact ⟨[], f, rest, rfl, fit_nil, .repeated stands nonempty known⟩
        · next new =>
          obtain ⟨front, g, back, rfl, fit, fault⟩ := ih (map_eq_error_iff.mp failed)
          refine ⟨f :: front, g, back, rfl,
            (fit_cons_of_some tagged own).mpr ⟨nonempty, new, fit⟩, ?_⟩
          rw [keys_cons_of_some own, List.reverse_cons, List.append_assoc]
          exact fault

theorem Fit.of_append (fit : Fit taken (front ++ back)) : Fit taken front := by
  obtain ⟨tagged, named, distinct, fresh⟩ := fit
  rw [keys_append] at named distinct fresh
  rw [List.forall_mem_append] at tagged named fresh
  exact ⟨tagged.1, named.1, (List.nodup_append.mp distinct).1, fresh.1⟩

theorem propertyNames_of_fault (fit : Fit [] front) (fault : FieldFault param (keys front) f e)
    (back : List FieldDecl) : propertyNames param [] (front ++ f :: back) = .error e := by
  have reversed : FieldFault param (keys front).reverse f e :=
    .of_reverse (by rwa [List.reverse_reverse])
  rw [propertyNames_append fit, List.append_nil, propertyNames_cons_of_fault reversed, map_error]

theorem fit_iff_forall_not_fault (param : String) :
    Fit [] fields ↔
      ∀ front f back e, fields = front ++ f :: back → ¬ FieldFault param (keys front) f e := by
  constructor
  · rintro fit front f back e rfl fault
    have done : propertyNames param [] (front ++ f :: back) = .ok (keys (front ++ f :: back)) :=
      propertyNames_eq_ok_iff.mpr ⟨fit, rfl⟩
    rw [propertyNames_of_fault fit.of_append fault] at done
    cases done
  · intro none
    cases outcome : propertyNames param [] fields with
    | ok names => exact (propertyNames_eq_ok_iff.mp outcome).1
    | error e =>
      obtain ⟨front, f, back, whole, _, fault⟩ := fault_of_propertyNames outcome
      rw [List.append_nil] at fault
      exact absurd fault.of_reverse (none front f back e whole)

theorem propertyNames_eq_error_iff :
    propertyNames param [] fields = .error e ↔ FirstFault param fields e := by
  constructor
  · intro failed
    obtain ⟨front, f, back, whole, fit, fault⟩ := fault_of_propertyNames failed
    rw [List.append_nil] at fault
    exact ⟨front, f, back, whole, fault.of_reverse, (fit_iff_forall_not_fault param).mp fit⟩
  · rintro ⟨front, f, back, rfl, fault, none⟩
    exact propertyNames_of_fault ((fit_iff_forall_not_fault param).mpr none) fault back

end

theorem strictProperties_eq_ok_iff {param : String} {fields : List FieldDecl}
    {ps : List (String × Json.Value)} :
    strictProperties param fields = .ok ps ↔
      Fit [] fields ∧ ps = (keys fields).map fun k => (k, propertySchema) := by
  rw [strictProperties, map_eq_ok_iff]
  simp only [propertyNames_eq_ok_iff]
  constructor
  · rintro ⟨_, ⟨fit, rfl⟩, rfl⟩
    exact ⟨fit, rfl⟩
  · rintro ⟨fit, rfl⟩
    exact ⟨keys fields, ⟨fit, rfl⟩, rfl⟩

/-- A strict struct has properties exactly if its fields all have tags and the keys are names that
differ; they are the keys in declaration order, and each is a string. Otherwise the error is that
of the first field that has a fault. -/
theorem strictProperties_decided (param : String) (fields : List FieldDecl) :
    (∀ ps, strictProperties param fields = .ok ps ↔
      (∀ f ∈ fields, f.jsonTag ≠ none) ∧ (∀ k ∈ keys fields, k ≠ "") ∧ (keys fields).Nodup ∧
        ps = (keys fields).map fun k => (k, .object [("type", .string "string")])) ∧
    (∀ e, strictProperties param fields = .error e ↔ FirstFault param fields e) ∧
    ∀ f key, key? f = some key ↔ StandsFor f key := by
  refine ⟨fun ps => ?_, fun e => ?_, fun f key => key?_eq_some_iff⟩
  · rw [strictProperties_eq_ok_iff]
    constructor
    · rintro ⟨fit, rfl⟩
      exact ⟨fit.tagged, fit.named, fit.distinct, rfl⟩
    · rintro ⟨tagged, named, distinct, rfl⟩
      exact ⟨⟨tagged, named, distinct, by simp⟩, rfl⟩
  · rw [strictProperties, map_eq_error_iff, propertyNames_eq_error_iff]

/-- A dash before a comma is a name, and one that is alone leaves its field out. -/
example : propertyNames "p" [] [⟨"A", some "json:\"a,omitempty\""⟩, ⟨"B", some "json:\"-\""⟩,
    ⟨"C", some "json:\"-,\""⟩] = .ok ["a", "-"] := by
  rfl

end TaskSynth.Schema
