import TaskSynth.Json.Printer
import TaskSynth.Yaml.Scalar

/-! YAML text of a value in block style. Every function writes whole lines, so the next line can
follow at once. The entries of a list stand at the margin of the key that holds the list. -/
namespace TaskSynth.Yaml

open Json (Value Number)

/-- Positional from `1e-5` up to below `1e16`; a positive exponent has no sign. -/
def floatStyle : Decimal.Style := ⟨-5, 15, true, false⟩

def numberChars : Number → List Char
  | .integer n => (toString n).toList
  | .float x => floatStyle.text x

/-- A key that stands on one line before its colon. -/
def isShortKey (key : List Char) : Bool :=
  (String.ofList key).utf8ByteSize ≤ 128 && !key.any isBreak

def shortKey (key : List Char) : List Char :=
  match ScalarStyle.ofText key with
  | .plain => key
  | .singleQuoted => singleQuoted 0 key
  | _ => doubleQuoted key

mutual

/-- What follows the mark that introduces a value. On the line of the mark a collection stands
two columns deeper; otherwise a list keeps the margin and a mapping goes deeper. -/
def valueLines (width : Nat) (sameLine : Bool) : Value → List Char
  | .null => " null\n".toList
  | .bool true => " true\n".toList
  | .bool false => " false\n".toList
  | .number n => ' ' :: (numberChars n ++ ['\n'])
  | .string s => ' ' :: scalarLines (width + 2) s.toList
  | .array [] => " []\n".toList
  | .object [] => [' ', '\x7b', '\x7d', '\n']
  | .array (v :: rest) =>
    if sameLine then ' ' :: itemLines (width + 2) [] (v :: rest)
    else '\n' :: itemLines width (margin width) (v :: rest)
  | .object (e :: rest) =>
    if sameLine then ' ' :: entryLines (width + 2) [] (e :: rest)
    else '\n' :: entryLines (width + 2) (margin (width + 2)) (e :: rest)

/-- The entries of a list at a margin; `lead` stands before the first of them. -/
def itemLines (width : Nat) (lead : List Char) : List Value → List Char
  | [] => []
  | v :: rest => lead ++ '-' :: (valueLines width true v ++ itemLines width (margin width) rest)

/-- The entries of a mapping. A long key is introduced by a mark of its own. -/
def entryLines (width : Nat) (lead : List Char) : List (String × Value) → List Char
  | [] => []
  | (k, v) :: rest =>
    let key := k.toList
    let entry :=
      if isShortKey key then shortKey key ++ ':' :: valueLines width false v
      else '?' :: ' ' :: (scalarLines (width + 2) key ++ margin width ++ ':' ::
        valueLines width true v)
    lead ++ entry ++ entryLines width (margin width) rest

end

section

variable {width : Nat} {lead : List Char}

theorem valueLines_string (sameLine : Bool) (s : String) :
    valueLines width sameLine (.string s) = ' ' :: scalarLines (width + 2) s.toList := rfl

theorem valueLines_array (v : Value) (rest : List Value) :
    valueLines width false (.array (v :: rest)) =
      '\n' :: itemLines width (margin width) (v :: rest) := rfl

theorem valueLines_object (e : String × Value) (rest : List (String × Value)) :
    valueLines width false (.object (e :: rest)) =
      '\n' :: entryLines (width + 2) (margin (width + 2)) (e :: rest) := rfl

theorem itemLines_nil : itemLines width lead [] = [] := rfl

theorem itemLines_cons (v : Value) (rest : List Value) :
    itemLines width lead (v :: rest) =
      lead ++ '-' :: (valueLines width true v ++ itemLines width (margin width) rest) := rfl

theorem entryLines_nil : entryLines width lead [] = [] := rfl

theorem entryLines_cons {key : String} (short : isShortKey key.toList)
    (plain : ScalarStyle.ofText key.toList = .plain) (v : Value) (rest : List (String × Value)) :
    entryLines width lead ((key, v) :: rest) =
      lead ++ key.toList ++ ':' :: valueLines width false v ++
        entryLines width (margin width) rest := by
  have same : shortKey key.toList = key.toList := by rw [shortKey, plain]
  show lead ++ (if isShortKey key.toList then _ else _) ++ _ = _
  rw [if_pos short, same, ← List.append_assoc]

end

def document (v : Value) : String :=
  String.ofList (match v with
    | .array (v :: rest) => itemLines 0 [] (v :: rest)
    | .object (e :: rest) => entryLines 0 [] (e :: rest)
    | v => (valueLines 0 true v).drop 1)

end TaskSynth.Yaml
