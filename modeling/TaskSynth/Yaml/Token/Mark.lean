import TaskSynth.Decimal.Reading
import TaskSynth.Text.Name
import TaskSynth.Yaml.Cursor
import TaskSynth.Yaml.Token.Basic

namespace TaskSynth.Yaml.Token

def endsName : List Char → Bool
  | [] => true
  | c :: _ => isGap c || ['?', ':', ',', ']', '\x7d', '%', '@', '\x60'].elem c

def anchorName (c : Cursor) : Option (String × Cursor) :=
  let name := (c.rest.drop 1).takeWhile Text.isNameChar
  let after := c.skip (1 + name.length)
  if name.isEmpty || !endsName after.rest then none else some (String.ofList name, after)

/-- Characters of a tag; some may stand only between angle brackets or in a directive. -/
def isTagChar (enclosed : Bool) (c : Char) : Bool :=
  Text.isNameChar c ||
    [';', '/', '?', ':', '@', '&', '=', '+', '$', '.', '%', '!', '~', '*', '\x27', '(', ')'].elem
      c ||
    (enclosed && [',', '[', ']'].elem c)

/-- The number of octets that a character takes, by its first octet. -/
def octets? (first : Nat) : Option (Nat × Nat) :=
  if first < 0x80 then some (1, first)
  else if 0xc0 ≤ first && first < 0xe0 then some (2, first % 0x20)
  else if 0xe0 ≤ first && first < 0xf0 then some (3, first % 0x10)
  else if 0xf0 ≤ first && first < 0xf8 then some (4, first % 0x08)
  else none

def octet? : List Char → Option Nat
  | '%' :: a :: b :: _ => Decimal.natural? 16 [a, b]
  | _ => none

def moreOctets : Nat → Nat → List Char → Option Nat
  | 0, code, _ => some code
  | count + 1, code, s => do
    let octet ← octet? s
    if octet / 0x40 = 2 then moreOctets count (code * 0x40 + octet % 0x40) (s.drop 3) else none

/-- The characters of a tag; `skip` of them belong to an escape that has been read. -/
def tagChars (enclosed : Bool) : Nat → List Char → Option (List Char × Nat)
  | skip + 1, _ :: rest => (tagChars enclosed skip rest).map fun (s, n) => (s, n + 1)
  | _, [] => some ([], 0)
  | 0, c :: rest =>
    if c == '%' then do
      let (count, start) ← octets? (← octet? (c :: rest))
      let code ← moreOctets (count - 1) start (rest.drop 2)
      let (s, n) ← tagChars enclosed (3 * count - 1) rest
      some (Char.ofNat code :: s, n + 1)
    else if isTagChar enclosed c then
      (tagChars enclosed 0 rest).map fun (s, n) => (c :: s, n + 1)
    else some ([], 0)

/-- A handle: a mark, a name, and perhaps a second mark. -/
def tagHandle (c : Cursor) : Option (List Char × Cursor) :=
  match c.rest with
  | '!' :: rest =>
    let name := rest.takeWhile Text.isNameChar
    let after := c.skip (1 + name.length)
    match after.rest with
    | '!' :: _ => some ('!' :: (name ++ ['!']), after.skip 1)
    | _ => some ('!' :: name, after)
  | _ => none

def ofTag (handle suffix : List Char) : Token :=
  .tag (String.ofList handle) (String.ofList suffix)

/-- A tag: between angle brackets, with a named handle, or short. -/
def readTag (c : Cursor) : Option (Token × Cursor) :=
  match c.rest with
  | '!' :: '<' :: rest => do
    let (suffix, count) ← tagChars true 0 rest
    let after := c.skip (2 + count)
    match after.rest with
    | '>' :: _ => if suffix.isEmpty then none else some (ofTag [] suffix, after.skip 1)
    | _ => none
  | _ => do
    let (handle, c) ← tagHandle c
    let (suffix, count) ← tagChars false 0 c.rest
    let after := c.skip count
    if 1 < handle.length && handle.getLast? == some '!' then
      if suffix.isEmpty then none else some (ofTag handle suffix, after)
    else
      let suffix := handle.drop 1 ++ suffix
      some (if suffix.isEmpty then ofTag [] ['!'] else ofTag ['!'] suffix, after)

/-- A tag ends at a gap; in a flow collection also at a comma. -/
def tagAt (inFlow : Bool) (c : Cursor) : Option (Token × Cursor) := do
  let (token, after) ← readTag c
  if endsWord after.rest || (inFlow && after.rest.head? == some ',') then some (token, after)
  else none

def versionNumber (c : Cursor) : Option (Nat × Cursor) :=
  let digits := c.rest.takeWhile Decimal.isDigit
  if digits.isEmpty || 9 < digits.length then none
  else some (Decimal.natural digits, c.skip digits.length)

def versionDirective (c : Cursor) : Option (Token × Cursor) := do
  let (major, c) ← versionNumber (c.skipWhile isBlank)
  match c.rest with
  | '.' :: _ =>
    let (minor, c) ← versionNumber (c.skip 1)
    some (.version major minor, c)
  | _ => none

def handleDirective (c : Cursor) : Option (Token × Cursor) := do
  let (handle, c) ← tagHandle (c.skipWhile isBlank)
  if handle ≠ ['!'] && (handle.length < 2 || handle.getLast? ≠ some '!') then none
  else if !c.rest.head?.any isBlank then none
  else
    let c := c.skipWhile isBlank
    let (expansion, count) ← tagChars true 0 c.rest
    let c := c.skip count
    if expansion.isEmpty || !endsWord c.rest then none
    else some (.shorthand (String.ofList handle) (String.ofList expansion), c)

def directive (c : Cursor) : Option (Token × Cursor) := do
  let name := (c.rest.drop 1).takeWhile Text.isNameChar
  let c := c.skip (1 + name.length)
  if !endsWord c.rest then none
  else
    let (token, c) ← match String.ofList name with
      | "YAML" => versionDirective c
      | "TAG" => handleDirective c
      | _ => none
    some (token, ← c.skipToLineEnd)

end TaskSynth.Yaml.Token
