import Mathlib.Data.List.Infix
import Mathlib.Data.List.Perm.Basic
import TaskSynth.Proofs.Package.Interleaving
import TaskSynth.Proofs.Text.Trim

namespace TaskSynth.Binding

/-- A method in Go: its receiver, a pointer to a type, then its name with parameters and results,
and the lines of its body. -/
structure Declaration where
  receiver : String
  typeName : String
  signature : String
  body : List String

def Declaration.text (d : Declaration) : String :=
  "func (" ++ d.receiver ++ " *" ++ d.typeName ++ ") " ++ d.signature ++ " \x7b\n" ++
    String.join (d.body.map fun line => "\t" ++ line ++ "\n") ++ "\x7d"

/-- A method returns the name of the task, or converts the value of its type: a string as it is, and
all else through JSON. -/
def Method.declaration (m : Method) (a : Args) : Declaration :=
  match m with
  | paramName => ⟨"param", a.typeName, "Name() string", ["return \"" ++ a.name ++ "\""]⟩
  | paramUnmarshalRaw =>
    ⟨"param", a.typeName, "Unmarshal(buf []byte) error",
      ["*param = " ++ a.typeName ++ "(buf)", "return nil"]⟩
  | paramUnmarshalJson =>
    ⟨"param", a.typeName, "Unmarshal(buf []byte) error", ["return json.Unmarshal(buf, param)"]⟩
  | resultName => ⟨"result", a.typeName, "Name() string", ["return \"" ++ a.name ++ "\""]⟩
  | resultMarshalRaw =>
    ⟨"result", a.typeName, "Marshal() ([]byte, error)", ["return []byte(*result), nil"]⟩
  | resultMarshalJson =>
    ⟨"result", a.typeName, "Marshal() ([]byte, error)", ["return json.Marshal(result)"]⟩

/-- The sections of the entities of one kind: names, raw conversions, conversions through JSON. -/
def arrangedOf (kind : Entity.Kind) (es : List Entity) : List (Method × Entity) :=
  let own := Entity.ofKind kind es
  own.map (Method.naming kind, ·) ++
    (own.filter fun e => e.shape = .scalar true).map (Method.converting kind .raw, ·) ++
    (own.filter fun e => e.shape ≠ .scalar true).map (Method.converting kind .json, ·)

/-- Those of params come first; in a group the entities keep their order. -/
def arranged (es : List Entity) : List (Method × Entity) :=
  arrangedOf .param es ++ arrangedOf .result es

/-- The method of an entity on its Go type. -/
def sectionText (s : Method × Entity) : String :=
  (s.1.declaration ⟨s.2.marker.name, s.2.name⟩).text

/-- The one conversion that the shape of an entity asks for. -/
def conversionOf (e : Entity) : Method × Entity :=
  (.converting e.kind (if e.shape = .scalar true then .raw else .json), e)

def sectionsOf (e : Entity) : List (Method × Entity) := [(.naming e.kind, e), conversionOf e]

def preamble (header : LicenseHeader) (packageName : String) : String :=
  (if header.content.toList.all Text.isBlank then "" else Text.trim header.content ++ "\n\n") ++
    "// Code generated by tektasker. DO NOT EDIT.\n\npackage " ++ packageName

/-- What is put after the preamble where JSON is used. -/
def jsonClause : String := "\n\nimport (\n\t\"encoding/json\"\n)"

def CallsJson (m : Method) : Prop := m = .paramUnmarshalJson ∨ m = .resultMarshalJson

instance : DecidablePred CallsJson := fun _ => instDecidableOr

/-- How a file is made up of its header and of sections, with one blank line between them. -/
structure LaidOut (p : Package) (header : LicenseHeader) (head : String)
    (sections : List (Method × Entity)) (source : String) : Prop where
  whole : source = "\n\n".intercalate (head :: sections.map sectionText) ++ "\n"
  apart : ∀ t ∈ head :: sections.map sectionText, Text.StartsInText t ∧ Text.EndsInText t
  ending : ∃ text, source = text ++ "\n" ∧ Text.EndsInText text
  order : sections = arranged (Entity.firstOccurrences p.entities)
  twice : sections.Perm ((Entity.firstOccurrences p.entities).flatMap sectionsOf)
  opening : head =
    if ∃ s ∈ sections, CallsJson s.1 then preamble header p.name ++ jsonClause
    else Text.trimEnd (preamble header p.name)
  calls : ∀ s ∈ sections,
    CallsJson s.1 ↔ "json.".toList <:+: (s.1.declaration ⟨"", ""⟩).text.toList

section

variable {p : Package} {e : Entity} {kind : Entity.Kind} {es : List Entity}

theorem render_eq_text (m : Method) (a : Args) : m.render a = (m.declaration a).text := by
  -- Literals that stand before a variable are put together by hand.
  have named (rest : String) : ") Name() string \x7b\n" ++ ("\t" ++ ("return \"" ++ rest)) =
      ") Name() string \x7b\n\treturn \"" ++ rest := by
    simp only [← String.append_assoc, String.reduceAppend]
  have assigned (rest : String) :
      ") Unmarshal(buf []byte) error \x7b\n" ++ ("\t" ++ ("*param = " ++ rest)) =
        ") Unmarshal(buf []byte) error \x7b\n\t*param = " ++ rest := by
    simp only [← String.append_assoc, String.reduceAppend]
  unfold Method.render Method.declaration
  cases m <;>
    simp only [Declaration.text, List.map, String.join, List.foldl, String.empty_append,
      String.append_assoc, String.reduceAppend, named, assigned]

theorem filter_renders_converting (kind : Entity.Kind) (c : Codec) (es : List Entity) :
    es.filter (renders (.converting kind c)) =
      (Entity.ofKind kind es).filter fun e => e.shape.classify.codec = c := by
  rw [Entity.ofKind, List.filter_filter]
  refine List.filter_congr fun e _ => ?_
  rw [Bool.eq_iff_iff, renders_converting_iff]
  simp [and_comm]

theorem codec_json_iff (s : Shape) : s.classify.codec = .json ↔ s ≠ .scalar true := by
  rw [Ne, ← codec_raw_iff]
  cases s.classify.codec <;> simp

theorem arranged_eq (es : List Entity) :
    arranged es = Method.all.flatMap fun m => (es.filter (renders m)).map (m, ·) := by
  have methods : Method.all =
      [.naming .param, .converting .param .raw, .converting .param .json, .naming .result,
        .converting .result .raw, .converting .result .json] := rfl
  rw [methods]
  simp only [arranged, arrangedOf, List.flatMap_cons, List.flatMap_nil, List.append_nil,
    filter_renders_naming, filter_renders_converting, codec_raw_iff, codec_json_iff,
    List.append_assoc]

theorem sections_ofPackage (p : Package) :
    (Index.ofPackage p).value.sections =
      (arranged (Entity.firstOccurrences p.entities)).map sectionText := by
  rw [arranged_eq, Entity.firstOccurrences_eq, Index.sections, List.map_flatMap]
  refine List.flatMap_congr fun m _ => ?_
  rw [Index.get_ofPackage, List.map_map, List.map_map]
  exact List.map_congr_left fun e _ => render_eq_text m (argsOf e)

theorem mem_arranged_iff {s : Method × Entity} :
    s ∈ arranged es ↔ s.2 ∈ es ∧ renders s.1 s.2 := by
  have every : s.1 ∈ Method.all := by cases s.1 <;> decide
  rw [arranged_eq, List.mem_flatMap]
  constructor
  · rintro ⟨m, _, member⟩
    obtain ⟨e, own, rfl⟩ := List.mem_map.mp member
    exact List.mem_filter.mp own
  · intro own
    exact ⟨s.1, every, List.mem_map.mpr ⟨s.2, List.mem_filter.mpr own, rfl⟩⟩

theorem usesJson_iff (m : Method) : m.usesJson ↔ CallsJson m := by
  cases m <;> decide

theorem usesJson_ofPackage (p : Package) :
    (Index.ofPackage p).value.usesJson ↔
      ∃ s ∈ arranged (Entity.firstOccurrences p.entities), CallsJson s.1 := by
  rw [Index.usesJson_iff, Entity.firstOccurrences_eq]
  simp only [mem_arranged_iff, Index.get_ofPackage, usesJson_iff, ne_eq, List.map_eq_nil_iff,
    List.filter_eq_nil_iff, not_forall, not_not]
  constructor
  · rintro ⟨m, json, e, kept, own⟩
    exact ⟨(m, e), ⟨kept, own⟩, json⟩
  · rintro ⟨⟨m, e⟩, ⟨kept, own⟩, json⟩
    exact ⟨m, json, e, kept, own⟩

theorem conversions_perm (es : List Entity) (own : ∀ e ∈ es, e.kind = kind) :
    ((es.filter fun e => e.shape = .scalar true).map (Method.converting kind .raw, ·) ++
      (es.filter fun e => e.shape ≠ .scalar true).map (Method.converting kind .json, ·)).Perm
        (es.map conversionOf) := by
  have raw : (es.filter fun e => e.shape = .scalar true).map (Method.converting kind .raw, ·) =
      (es.filter fun e => e.shape = .scalar true).map conversionOf := by
    refine List.map_congr_left fun e member => ?_
    obtain ⟨there, shape⟩ := List.mem_filter.mp member
    simp only [conversionOf, own e there, if_pos (of_decide_eq_true shape)]
  have json : (es.filter fun e => e.shape ≠ .scalar true).map (Method.converting kind .json, ·) =
      (es.filter fun e => !decide (e.shape = .scalar true)).map conversionOf := by
    simp only [← decide_not]
    refine List.map_congr_left fun e member => ?_
    obtain ⟨there, shape⟩ := List.mem_filter.mp member
    simp only [conversionOf, own e there, if_neg (of_decide_eq_true shape)]
  rw [raw, json, ← List.map_append]
  exact (List.filter_append_perm _ es).map conversionOf

theorem arrangedOf_perm (kind : Entity.Kind) (es : List Entity) :
    (arrangedOf kind es).Perm ((Entity.ofKind kind es).flatMap sectionsOf) := by
  have own : ∀ e ∈ Entity.ofKind kind es, e.kind = kind := fun e member =>
    of_decide_eq_true (List.mem_filter.mp member).2
  have names : (Entity.ofKind kind es).map (Method.naming kind, ·) =
      (Entity.ofKind kind es).flatMap fun e => [(Method.naming e.kind, e)] := by
    rw [List.map_eq_flatMap]
    exact List.flatMap_congr fun e member => by rw [own e member]
  rw [arrangedOf, List.append_assoc, names]
  refine ((List.Perm.refl _).append (conversions_perm _ own)).trans ?_
  rw [List.map_eq_flatMap]
  exact List.flatMap_append_perm _ _ _

theorem arranged_perm (es : List Entity) : (arranged es).Perm (es.flatMap sectionsOf) := by
  have kinds : (Entity.ofKind .param es ++ Entity.ofKind .result es).Perm es := by
    have others : Entity.ofKind .result es = es.filter fun e => !decide (e.kind = .param) := by
      refine List.filter_congr fun e _ => ?_
      cases e.kind <;> rfl
    rw [others]
    exact List.filter_append_perm _ es
  refine ((arrangedOf_perm .param es).append (arrangedOf_perm .result es)).trans ?_
  rw [← List.flatMap_append]
  exact kinds.flatMap_right sectionsOf

theorem callsJson_iff (m : Method) :
    CallsJson m ↔ "json.".toList <:+: (m.declaration ⟨"", ""⟩).text.toList := by
  cases m <;> decide +kernel

theorem startsInText_declaration (d : Declaration) : Text.StartsInText d.text :=
  (((((((Text.StartsInText.append ⟨'f', rfl, rfl⟩ _).append _).append _).append _).append _).append
    _).append _).append _

theorem endsInText_declaration (d : Declaration) : Text.EndsInText d.text :=
  .append ⟨'\x7d', rfl, rfl⟩ _

theorem text_eq (header : LicenseHeader) :
    (if header.text = "" then "" else Text.trim header.text ++ "\n\n") =
      if header.content.toList.all Text.isBlank then ""
      else Text.trim header.content ++ "\n\n" := by
  unfold LicenseHeader.text LicenseHeader.isEmpty
  cases blank : header.content.toList.all Text.isBlank with
  | true => rfl
  | false =>
    have some_text : header.content ≠ "" := by
      intro none
      rw [none] at blank
      cases blank
    simp [some_text]

theorem fileHeader_bare (header : LicenseHeader) (name : String) :
    fileHeader header.text name [] = Text.trimEnd (preamble header name) := by
  simp only [fileHeader, text_eq, preamble]
  simp [importClause, String.append_assoc]

theorem endsInText_importClause {paths : List String} (some : paths ≠ []) (text : String) :
    Text.EndsInText (text ++ importClause paths) := by
  rw [importClause, if_neg (by simpa using some)]
  exact .append (.append ⟨')', by decide, by decide⟩ _) text

theorem fileHeader_of_imports {paths : List String} (some : paths ≠ []) (header : LicenseHeader)
    (name : String) :
    fileHeader header.text name paths = preamble header name ++ importClause paths := by
  rw [← Text.trimEnd_of_endsInText (endsInText_importClause some _)]
  simp only [fileHeader, text_eq, preamble, String.append_assoc]

theorem importClause_json : importClause [jsonImport] = jsonClause := rfl

theorem startsInText_preamble (header : LicenseHeader) (name : String) :
    Text.StartsInText (preamble header name) := by
  unfold preamble
  cases blank : header.content.toList.all Text.isBlank with
  | true =>
    rw [if_pos rfl]
    exact .append ⟨'/', rfl, rfl⟩ name
  | false =>
    obtain ⟨c, member, text⟩ := List.all_eq_false.mp blank
    have starts := Text.startsInText_trim member (eq_false_of_ne_true text)
    rw [if_neg Bool.false_ne_true]
    exact ((starts.append _).append _).append name

theorem framed_fileHeader (header : LicenseHeader) (name : String) (json : Bool) :
    let head := fileHeader header.text name (if json then [jsonImport] else [])
    head = (if json then preamble header name ++ jsonClause
      else Text.trimEnd (preamble header name)) ∧
    Text.StartsInText head ∧ Text.EndsInText head := by
  have starts := startsInText_preamble header name
  cases json with
  | true =>
    have some : [jsonImport] ≠ [] := List.cons_ne_nil _ _
    rw [if_pos rfl, if_pos rfl, fileHeader_of_imports some, ← importClause_json]
    exact ⟨rfl, starts.append _, endsInText_importClause some _⟩
  | false =>
    rw [if_neg Bool.false_ne_true, if_neg Bool.false_ne_true, fileHeader_bare]
    obtain ⟨c, first, text⟩ := starts
    exact ⟨rfl, Text.StartsInText.trimEnd ⟨c, first, text⟩,
      Text.endsInText_trimEnd (List.mem_of_head? first) text⟩

end

/-- The file of a task package is its header and two sections for each entity that is kept, group
by group and in order within a group. The header imports the JSON package exactly if one of the
sections calls it. -/
theorem source_laid_out {p : Package} {t : Marker.Task} (task : p.task = some t)
    (header : LicenseHeader) :
    ∃ head source, (synthesize p header).value = some source ∧
      LaidOut p header head (arranged (Entity.firstOccurrences p.entities)) source := by
  let i := (Index.ofPackage p).value
  let head := fileHeader header.text p.name (if i.usesJson then [jsonImport] else [])
  obtain ⟨opening, starts, ends⟩ := framed_fileHeader header p.name i.usesJson
  have apart : ∀ t ∈ head :: (arranged (Entity.firstOccurrences p.entities)).map sectionText,
      Text.StartsInText t ∧ Text.EndsInText t := by
    refine List.forall_mem_cons.mpr ⟨⟨starts, ends⟩, fun t member => ?_⟩
    obtain ⟨s, _, rfl⟩ := List.mem_map.mp member
    exact ⟨startsInText_declaration _, endsInText_declaration _⟩
  have source : i.source p.name header =
      "\n\n".intercalate
        (head :: (arranged (Entity.firstOccurrences p.entities)).map sectionText) ++ "\n" := by
    rw [← sections_ofPackage]
    rfl
  refine ⟨head, i.source p.name header, ?_, source, apart, ?_, rfl, arranged_perm _, ?_,
    fun s _ => callsJson_iff s.1⟩
  · rw [synthesize_value, task, ← Index.ofPackage_value, Option.map_some]
  · exact ⟨_, source, .intercalate (List.cons_ne_nil _ _) fun t member => (apart t member).2⟩
  · exact opening.trans (if_congr (usesJson_ofPackage p) rfl rfl)

/-- A blank licence, a param that is repeated with another shape, and a result of its name. -/
theorem source_laid_out_repeated :
    let param (name type : String) (shape : Shape) : Entity :=
      ⟨type, "", shape, .param ⟨name, none, false⟩⟩
    let result (name type : String) : Entity := ⟨type, "", .scalar true, .result ⟨name⟩⟩
    let p : Package := ⟨"main", "acme/main", ".", [], some ⟨"greet", "0.1"⟩, [],
      [result "msg" "Reply", param "all" "All" .array, param "msg" "Message" (.scalar true),
        param "msg" "Again" .map]⟩
    let sections : List (Method × Entity) :=
      [(.paramName, param "all" "All" .array),
        (.paramName, param "msg" "Message" (.scalar true)),
        (.paramUnmarshalRaw, param "msg" "Message" (.scalar true)),
        (.paramUnmarshalJson, param "all" "All" .array),
        (.resultName, result "msg" "Reply"), (.resultMarshalRaw, result "msg" "Reply")]
    ∃ source, (synthesize p ⟨" \n"⟩).value = some source ∧
      LaidOut p ⟨" \n"⟩ ("// Code generated by tektasker. DO NOT EDIT.\n\npackage main\n\n" ++
        "import (\n\t\"encoding/json\"\n)") sections source := by
  intro param result p sections
  obtain ⟨head, source, value, laid⟩ :=
    source_laid_out (p := p) (t := ⟨"greet", "0.1"⟩) rfl ⟨" \n"⟩
  have order : arranged (Entity.firstOccurrences p.entities) = sections := by decide
  rw [order] at laid
  have imports : ∃ s ∈ sections, CallsJson s.1 := by decide
  have opening := laid.opening
  rw [if_pos imports] at opening
  have text : preamble ⟨" \n"⟩ p.name ++ jsonClause =
      "// Code generated by tektasker. DO NOT EDIT.\n\npackage main\n\n" ++
        "import (\n\t\"encoding/json\"\n)" := by decide
  exact ⟨source, value, text ▸ opening ▸ laid⟩

end TaskSynth.Binding
