import TaskSynth.Decimal.Reading

namespace TaskSynth.Toml

/-- Control characters may not stand in strings and comments, except for tabs. -/
def isControl (c : Char) : Bool := (c.toNat < 0x20 && c != '\t') || c == '\x7f'

def isBlank (c : Char) : Bool := c == ' ' || c == '\t'

def simpleEscape? : Char → Option Char
  | 'b' => some '\x08'
  | 't' => some '\t'
  | 'n' => some '\n'
  | 'f' => some '\x0c'
  | 'r' => some '\r'
  | 'e' => some '\x1b'
  | '"' => some '"'
  | '\\' => some '\\'
  | _ => none

def codeLength? : Char → Option Nat
  | 'x' => some 2
  | 'u' => some 4
  | 'U' => some 8
  | _ => none

/-- The character of an escape and how many characters after the backslash make it. -/
def escape? : List Char → Option (Char × Nat)
  | [] => none
  | c :: rest =>
    match simpleEscape? c, codeLength? c with
    | some x, _ => some (x, 1)
    | none, some count => do
      let digits := rest.take count
      let code ← Decimal.natural? 16 digits
      if digits.length = count && (code < 0xD800 || (0xDFFF < code && code ≤ 0x10FFFF)) then
        some (Char.ofNat code, count + 1)
      else none
    | none, none => none

/-- Blanks and line ends after a backslash, if the line ends before anything else does. -/
def lineJoin? (s : List Char) : Option Nat :=
  match s.dropWhile isBlank with
  | '\n' :: _ => some (s.takeWhile fun c => isBlank c || c == '\n' || c == '\r').length
  | '\r' :: '\n' :: _ => some (s.takeWhile fun c => isBlank c || c == '\n' || c == '\r').length
  | _ => none

structure Form where
  quote : Char
  several : Bool

/-- The text up to the closing quotes, and what follows them; `skip` characters have been read
already. Up to two quotes may stand before three closing ones. -/
def body (f : Form) : Nat → List Char → Option (List Char × List Char)
  | skip + 1, _ :: rest => body f skip rest
  | _, [] => none
  | 0, c :: rest =>
    if c == f.quote then
      if !f.several then some ([], rest)
      else
        let run := 1 + (rest.takeWhile (· == f.quote)).length
        if run < 3 then (body f 0 rest).map fun (s, after) => (c :: s, after)
        else if run ≤ 5 then some (List.replicate (run - 3) c, rest.drop (run - 1))
        else none
    else if c == '\\' && f.quote == '"' then
      match (if f.several then lineJoin? rest else none), escape? rest with
      | some count, _ => body f count rest
      | none, some (x, count) => (body f count rest).map fun (s, after) => (x :: s, after)
      | none, none => none
    else if f.several && c == '\n' then (body f 0 rest).map fun (s, after) => (c :: s, after)
    else if f.several && c == '\r' && rest.head? == some '\n' then body f 0 rest
    else if isControl c then none
    else (body f 0 rest).map fun (s, after) => (c :: s, after)

/-- A line end right after three opening quotes does not count. -/
def dropFirstBreak : List Char → List Char
  | '\n' :: rest => rest
  | '\r' :: '\n' :: rest => rest
  | s => s

def lineText : List Char → Option (List Char × List Char)
  | '"' :: rest => body ⟨'"', false⟩ 0 rest
  | '\x27' :: rest => body ⟨'\x27', false⟩ 0 rest
  | _ => none

def text : List Char → Option (List Char × List Char)
  | '"' :: '"' :: '"' :: rest => body ⟨'"', true⟩ 0 (dropFirstBreak rest)
  | '\x27' :: '\x27' :: '\x27' :: rest => body ⟨'\x27', true⟩ 0 (dropFirstBreak rest)
  | s => lineText s

end TaskSynth.Toml
