import TaskSynth.Text.Name
import TaskSynth.Toml.Text

/-! TOML as far as settings need it: keys at the top level with strings, truth values and lists.
Tables, dotted keys, numbers and dates are refused. -/
namespace TaskSynth.Toml

inductive Value where
  | string (s : String)
  | bool (b : Bool)
  | list (items : List Value)

def Value.string? : Value → Option String
  | string s => some s
  | _ => none

def Value.bool? : Value → Option Bool
  | bool b => some b
  | _ => none

def Value.strings? : Value → Option (List String)
  | list items => items.mapM Value.string?
  | _ => none

/-- A key is a plain name or a string on one line. -/
def key (s : List Char) : Option (List Char × List Char) :=
  match s with
  | '"' :: _ => lineText s
  | '\x27' :: _ => lineText s
  | _ =>
    let name := s.takeWhile Text.isNameChar
    if name.isEmpty then none else some (name, s.dropWhile Text.isNameChar)

def skipComment (s : List Char) : Option (List Char) :=
  match s.dropWhile isBlank with
  | '#' :: rest =>
    let after := rest.dropWhile fun c => !isControl c
    match after with
    | [] => some after
    | '\n' :: _ => some after
    | '\r' :: '\n' :: _ => some after
    | _ => none
  | after => some after

def skipLines : Nat → List Char → Option (List Char)
  | 0, _ => none
  | steps + 1, s => do
    match ← skipComment s with
    | '\n' :: rest => skipLines steps rest
    | '\r' :: '\n' :: rest => skipLines steps rest
    | after => some after

mutual

def value : Nat → List Char → Option (Value × List Char)
  | 0, _ => none
  | _, 't' :: 'r' :: 'u' :: 'e' :: rest => some (.bool true, rest)
  | _, 'f' :: 'a' :: 'l' :: 's' :: 'e' :: rest => some (.bool false, rest)
  | steps + 1, '[' :: rest => do
    let (items, after) ← valueItems steps rest
    some (.list items, after)
  | _, s => (text s).map fun (t, after) => (.string (String.ofList t), after)

def valueItems : Nat → List Char → Option (List Value × List Char)
  | 0, _ => none
  | steps + 1, s => do
    match ← skipLines (s.length + 1) s with
    | ']' :: after => some ([], after)
    | s =>
      let (v, rest) ← value steps s
      match ← skipLines (rest.length + 1) rest with
      | ',' :: rest =>
        let (vs, after) ← valueItems steps rest
        some (v :: vs, after)
      | ']' :: after => some ([v], after)
      | _ => none

end

def entry (s : List Char) : Option ((String × Value) × List Char) := do
  let (name, rest) ← key s
  match rest.dropWhile isBlank with
  | '=' :: rest =>
    let (v, rest) ← value (rest.length + 1) (rest.dropWhile isBlank)
    match ← skipComment rest with
    | [] => some ((String.ofList name, v), [])
    | '\n' :: after => some ((String.ofList name, v), after)
    | '\r' :: '\n' :: after => some ((String.ofList name, v), after)
    | _ => none
  | _ => none

def entries : Nat → List Char → Option (List (String × Value))
  | 0, _ => none
  | steps + 1, s => do
    match ← skipLines (s.length + 1) s with
    | [] => some []
    | s =>
      let (e, rest) ← entry s
      let es ← entries steps rest
      some (e :: es)

/-- The entries of a text in their order; no key may be repeated. -/
def parse (s : String) : Option (List (String × Value)) := do
  let cs := s.toList
  let cs := if cs.head? == some '\ufeff' then cs.tail else cs
  let es ← entries (cs.length + 1) cs
  if (es.map Prod.fst).Nodup then some es else none

end TaskSynth.Toml
