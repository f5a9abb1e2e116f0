import TaskSynth.Content
import TaskSynth.Shape.Basic

/-! Reading and writing shapes. A shape is a mapping whose `kind` selects the variant, or a
sequence that starts with the kind; unknown keys are passed over. The first problem in the
order of the input is the one reported, and missing fields come last. -/
namespace TaskSynth

def Content.readText : Content → Except Mismatch String
  | .text s => .ok s
  | c => .error (.invalidType c.describe "a string")

def Content.readOptionalText : Content → Except Mismatch (Option String)
  | .null => .ok none
  | c => c.readText.map some

def Content.readFlag : Content → Except Mismatch Bool
  | .bool b => .ok b
  | c => .error (.invalidType c.describe "a boolean")

/-- The position of the field that a key names: a text by its spelling, a natural number by
counting. `none` is a key to pass over. -/
def Content.fieldIndex (names : List String) : Content → Except Mismatch (Option Nat)
  | .text s => .ok (names.idxOf? s)
  | .number (.integer (.ofNat n)) => .ok (if n < names.length then some n else none)
  | c => .error (.invalidType c.describe "field identifier")

/-- Elements beyond the fields of a sequence. -/
def checkLength (given taken : Nat) : Except Mismatch Unit :=
  if given ≤ taken then .ok ()
  else .error (.invalidLength given (elementCount taken ++ " in sequence"))

/-- Takes one field of a mapping, refusing a repetition. -/
def takeOnce {α : Type} (name : String) (seen : Option α) (read : Except Mismatch α) :
    Except Mismatch (Option α) :=
  match seen with
  | some _ => .error (.duplicateField name)
  | none => read.map some

namespace FieldDecl

def readEntries (name : Option String) (tag : Option (Option String)) :
    List (Content × Content) → Except Mismatch FieldDecl
  | [] =>
    match name with
    | some name => .ok ⟨name, tag.getD none⟩
    | none => .error (.missingField "name")
  | (key, value) :: rest => do
    match ← key.fieldIndex ["name", "tag"] with
    | some 0 => readEntries (← takeOnce "name" name value.readText) tag rest
    | some _ => readEntries name (← takeOnce "tag" tag value.readOptionalText) rest
    | none => readEntries name tag rest

def decode : Content → Except Mismatch FieldDecl
  | .mapping entries => readEntries none none entries
  | .sequence [] => .error (.invalidLength 0 "struct FieldDecl with 2 elements")
  | .sequence [name] => do .ok ⟨← name.readText, none⟩
  | .sequence (name :: tag :: more) => do
    let name ← name.readText
    let tag ← tag.readOptionalText
    checkLength (more.length + 2) 2
    .ok ⟨name, tag⟩
  | c => .error (.invalidType c.describe "struct FieldDecl")

def encode (f : FieldDecl) : Json.Value :=
  .object [("name", .string f.name), ("tag", .ofOption .string f.tag)]

end FieldDecl

def Content.readFieldDecls : Content → Except Mismatch (List FieldDecl)
  | .sequence items => items.mapM FieldDecl.decode
  | c => .error (.invalidType c.describe "a sequence")

namespace Shape

/-- The variants by name, before their fields are read. -/
def variantNames : List String := ["scalar", "array", "map", "struct"]

inductive Variant where
  | scalar | array | map | struct

def Variant.decode : Content → Except Mismatch Variant
  | .text "scalar" => .ok .scalar
  | .text "array" => .ok .array
  | .text "map" => .ok .map
  | .text "struct" => .ok .struct
  | .text s => .error (.unknownVariant s variantNames)
  | c => .error (.invalidType c.describe "variant identifier")

/-- The single field of a variant, from the other entries of the mapping. -/
def readOnly {α : Type} (name : String) (read : Content → Except Mismatch α) (seen : Option α) :
    List (Content × Content) → Except Mismatch (Option α)
  | [] => .ok seen
  | (key, value) :: rest => do
    match ← key.fieldIndex [name] with
    | some _ => readOnly name read (← takeOnce name seen (read value)) rest
    | none => readOnly name read seen rest

def ofEntries (entries : List (Content × Content)) : Variant → Except Mismatch Shape
  | .scalar => do
    .ok (.scalar ((← readOnly "string_alias" Content.readFlag none entries).getD false))
  | .array => .ok .array
  | .map => .ok .map
  | .struct => do .ok (.struct ((← readOnly "fields" Content.readFieldDecls none entries).getD []))

def ofItems : List Content → Variant → Except Mismatch Shape
  | [], .scalar => .ok (.scalar false)
  | item :: more, .scalar => do
    let b ← item.readFlag
    checkLength (more.length + 1) 1
    .ok (.scalar b)
  | items, .array => do checkLength items.length 0; .ok .array
  | items, .map => do checkLength items.length 0; .ok .map
  | [], .struct => .ok (.struct [])
  | item :: more, .struct => do
    let fields ← item.readFieldDecls
    checkLength (more.length + 1) 1
    .ok (.struct fields)

/-- The variant that the mapping names, and its other entries in order. -/
def splitKind (kind : Option Variant) (others : List (Content × Content)) :
    List (Content × Content) → Except Mismatch (Variant × List (Content × Content))
  | [] =>
    match kind with
    | some v => .ok (v, others.reverse)
    | none => .error (.missingField "kind")
  | (.text "kind", value) :: rest => do
    splitKind (← takeOnce "kind" kind (Variant.decode value)) others rest
  | entry :: rest => splitKind kind (entry :: others) rest

def decode : Content → Except Mismatch Shape
  | .mapping entries => do
    let (variant, others) ← splitKind none [] entries
    ofEntries others variant
  | .sequence [] => .error (.missingField "kind")
  | .sequence (kind :: items) => do ofItems items (← Variant.decode kind)
  | c => .error (.invalidType c.describe "internally tagged enum Shape")

def encode : Shape → Json.Value
  | scalar isAlias => .object [("kind", .string "scalar"), ("string_alias", .bool isAlias)]
  | array => .object [("kind", .string "array")]
  | map => .object [("kind", .string "map")]
  | struct fields =>
    .object [("kind", .string "struct"), ("fields", .array (fields.map FieldDecl.encode))]

end Shape

end TaskSynth
