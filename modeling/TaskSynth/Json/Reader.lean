import TaskSynth.Decimal.Reading
import TaskSynth.Decimal.Word
import TaskSynth.Json.Value

/-! Reading JSON text. Every reader takes the remaining characters and returns what it read with
what is left; a fault names its cause and the characters that were left there, from which the
line and column are counted at the end. Columns count octets. -/
namespace TaskSynth.Json

inductive Cause where
  | eofInValue
  | eofInList
  | eofInObject
  | eofInString
  | expectedValue
  | expectedIdent
  | expectedListCommaOrEnd
  | expectedObjectCommaOrEnd
  | expectedColon
  | trailingComma
  | trailingCharacters
  | keyNotString
  | invalidNumber
  | numberOutOfRange
  | invalidEscape
  | controlCharacter
  | unexpectedHexEnd
  | loneSurrogate
  | tooDeep
  | invalidType (found expected : String)

def Cause.message : Cause → String
  | eofInValue => "EOF while parsing a value"
  | eofInList => "EOF while parsing a list"
  | eofInObject => "EOF while parsing an object"
  | eofInString => "EOF while parsing a string"
  | expectedValue => "expected value"
  | expectedIdent => "expected ident"
  | expectedListCommaOrEnd => "expected `,` or `]`"
  | expectedObjectCommaOrEnd => "expected `,` or `\x7d`"
  | expectedColon => "expected `:`"
  | trailingComma => "trailing comma"
  | trailingCharacters => "trailing characters"
  | keyNotString => "key must be a string"
  | invalidNumber => "invalid number"
  | numberOutOfRange => "number out of range"
  | invalidEscape => "invalid escape"
  | controlCharacter => "control character (\\u0000-\\u001F) found while parsing a string"
  | unexpectedHexEnd => "unexpected end of hex escape"
  | loneSurrogate => "lone leading surrogate in hex escape"
  | tooDeep => "recursion limit exceeded"
  | invalidType found expected => "invalid type: " ++ found ++ ", expected " ++ expected

/-- What went wrong, the characters left there, and how many octets of the next one the place
meant lies beyond that. -/
structure Fault where
  cause : Cause
  rest : List Char
  beyond : Nat

def faultAt {α : Type} (cause : Cause) (rest : List Char) : Except Fault α :=
  .error ⟨cause, rest, 0⟩

/-- A fault at the next octet, which is where it lies for a character that was only looked at. -/
def faultNext {α : Type} (cause : Cause) (rest : List Char) : Except Fault α :=
  .error ⟨cause, rest, 1⟩

def isSpace (c : Char) : Bool := c == ' ' || c == '\n' || c == '\t' || c == '\r'

def skipSpace (cs : List Char) : List Char := cs.dropWhile isSpace

def hexValue? (c : Char) : Option Nat := Decimal.digitIn? 16 c

/-- Passes `left` octets: the characters left, and the octets of the next one passed already.
`none` if there are not so many. -/
def passOctets? (left : Nat) : List Char → Option (List Char × Nat)
  | [] => if left == 0 then some ([], 0) else none
  | c :: rest =>
    if left < c.utf8Size then some (c :: rest, left) else passOctets? (left - c.utf8Size) rest

def readHex (cs : List Char) : Except Fault (Nat × List Char) :=
  let fault : Except Fault (Nat × List Char) := match passOctets? 4 cs with
    | some (rest, beyond) => .error ⟨.invalidEscape, rest, beyond⟩
    | none => faultAt .eofInString []
  match cs with
  | a :: b :: c :: d :: rest =>
    match hexValue? a, hexValue? b, hexValue? c, hexValue? d with
    | some w, some x, some y, some z => .ok (((w * 16 + x) * 16 + y) * 16 + z, rest)
    | _, _, _, _ => fault
  | _ => fault

/-- The character of a `\u` escape, given the characters after the `u`. A leading surrogate
needs its partner in the escape that follows. -/
def readUnicodeEscape (cs : List Char) : Except Fault (Char × List Char) := do
  let (n, rest) ← readHex cs
  if 0xDC00 ≤ n && n ≤ 0xDFFF then faultAt .loneSurrogate rest
  else if 0xD800 ≤ n && n ≤ 0xDBFF then
    match rest with
    | '\\' :: 'u' :: tail =>
      let (low, rest) ← readHex tail
      if 0xDC00 ≤ low && low ≤ 0xDFFF then
        .ok (Char.ofNat (0x10000 + (n - 0xD800) * 0x400 + (low - 0xDC00)), rest)
      else faultAt .loneSurrogate rest
    | '\\' :: [] => faultAt .eofInString []
    | '\\' :: tail => faultNext .unexpectedHexEnd tail
    | [] => faultAt .eofInString []
    | _ => faultNext .unexpectedHexEnd rest
  else .ok (Char.ofNat n, rest)

/-- One escape, given the characters after the backslash. -/
def readEscape : List Char → Except Fault (Char × List Char)
  | [] => faultAt .eofInString []
  | '"' :: rest => .ok ('"', rest)
  | '\\' :: rest => .ok ('\\', rest)
  | '/' :: rest => .ok ('/', rest)
  | 'b' :: rest => .ok ('\x08', rest)
  | 'f' :: rest => .ok ('\x0c', rest)
  | 'n' :: rest => .ok ('\n', rest)
  | 'r' :: rest => .ok ('\r', rest)
  | 't' :: rest => .ok ('\t', rest)
  | 'u' :: rest => readUnicodeEscape rest
  | rest => faultNext .invalidEscape rest

/-- The characters of a string literal up to and with its closing quote. `read` holds those read
already, the last one first, and `fuel` is at least the number of characters left. -/
def readStringFrom (read : List Char) : Nat → List Char → Except Fault (List Char × List Char)
  | _, [] => faultAt .eofInString []
  | 0, rest => faultAt .eofInString rest
  | fuel + 1, c :: rest =>
    if c == '"' then .ok (read.reverse, rest)
    else if c == '\\' then
      match readEscape rest with
      | .ok (e, rest) => readStringFrom (e :: read) fuel rest
      | .error f => .error f
    else if c.toNat < 0x20 then faultAt .controlCharacter rest
    else readStringFrom (c :: read) fuel rest

def readString (cs : List Char) : Except Fault (String × List Char) := do
  let (s, rest) ← readStringFrom [] cs.length cs
  .ok (String.ofList s, rest)

/-- The rest of a word whose first letter has been read. -/
def readWord {α : Type} (value : α) : List Char → List Char → Except Fault (α × List Char)
  | [], rest => .ok (value, rest)
  | _ :: _, [] => faultAt .eofInValue []
  | w :: word, c :: rest =>
    if w = c then readWord value word rest else faultNext .expectedIdent (c :: rest)

/-- A significand that takes digits for as long as it stays below `2 ^ 64`. -/
structure Significand where
  value : Nat
  full : Bool
  taken : Nat

def Significand.push (s : Significand) (c : Char) : Significand :=
  let next := s.value * 10 + Decimal.digitValue c
  if s.full || next ≥ Decimal.unsignedLimit then ⟨s.value, true, s.taken⟩
  else ⟨next, false, s.taken + 1⟩

def pushDigits (value : Nat) (digits : List Char) : Significand :=
  digits.foldl Significand.push ⟨value, false, 0⟩

/-- Scales by a power of ten in binary64 arithmetic, in steps of at most `10 ^ 308`;
`none` is an overflow. -/
def scale : Nat → Float → Int → Option Float
  | 0, x, _ => some x
  | steps + 1, x, exponent =>
    if exponent.natAbs ≤ 308 then
      let power := Decimal.nearest 1 exponent.natAbs
      if exponent ≥ 0 then
        let y := x * power
        if y.isInf then none else some y
      else some (x / power)
    else if x == 0.0 then some x
    else if exponent ≥ 0 then none
    else scale steps (x / Decimal.nearest 1 308) (exponent + 308)

/-- The float of a significand and an exponent; a few steps take any value to zero. -/
def floatOfParts (positive : Bool) (significand : Nat) (exponent : Int) (rest : List Char) :
    Except Fault (Number × List Char) :=
  match scale 8 significand.toUInt64.toFloat exponent with
  | some x => .ok (.float (if positive then x else -x), rest)
  | none => faultAt .numberOutOfRange rest

/-- The digits of an exponent as far as they stay within 32 signed bits, and the rest. -/
def exponentDigits (value : Nat) : List Char → Except (List Char) (Nat × List Char)
  | [] => .ok (value, [])
  | c :: rest =>
    if Decimal.isDigit c then
      let next := value * 10 + Decimal.digitValue c
      if next > 2147483647 then .error rest else exponentDigits next rest
    else .ok (value, c :: rest)

/-- An exponent, given the characters after the `e`. -/
def readExponent (positive : Bool) (significand : Nat) (start : Int) (cs : List Char) :
    Except Fault (Number × List Char) :=
  let (up, cs) := match cs with
    | '+' :: r => (true, r)
    | '-' :: r => (false, r)
    | r => (true, r)
  match cs with
  | [] => faultAt .eofInValue []
  | c :: rest =>
    if !Decimal.isDigit c then faultNext .invalidNumber (c :: rest)
    else match exponentDigits (Decimal.digitValue c) rest with
      | .ok (n, rest) =>
        let size : Int := n
        floatOfParts positive significand (if up then start + size else start - size) rest
      | .error rest =>
        if significand != 0 && up then faultAt .numberOutOfRange rest
        else .ok (.float (if positive then 0.0 else -0.0), rest.dropWhile Decimal.isDigit)

/-- What may follow the digits of a number: an exponent, or nothing more. -/
def finishFloat (positive : Bool) (significand : Nat) (exponent : Int) :
    List Char → Except Fault (Number × List Char)
  | 'e' :: rest => readExponent positive significand exponent rest
  | 'E' :: rest => readExponent positive significand exponent rest
  | rest => floatOfParts positive significand exponent rest

/-- A fraction, given the characters after the point. -/
def readFraction (positive : Bool) (significand : Nat) (exponent : Int) (cs : List Char) :
    Except Fault (Number × List Char) :=
  let digits := cs.takeWhile Decimal.isDigit
  let rest := cs.dropWhile Decimal.isDigit
  match digits, rest with
  | [], [] => faultAt .eofInValue []
  | [], _ => faultNext .invalidNumber rest
  | _, _ =>
    let s := pushDigits significand digits
    finishFloat positive s.value (exponent - s.taken) rest

def readNumber (positive : Bool) (cs : List Char) : Except Fault (Number × List Char) :=
  let finish (digits rest : List Char) : Except Fault (Number × List Char) :=
    let s := pushDigits 0 digits
    let dropped : Int := (digits.length : Int) - s.taken
    match rest with
    | '.' :: r => readFraction positive s.value dropped r
    | 'e' :: _ => finishFloat positive s.value dropped rest
    | 'E' :: _ => finishFloat positive s.value dropped rest
    | _ =>
      if dropped != 0 then floatOfParts positive s.value dropped rest
      else if positive then .ok (.integer s.value, rest)
      else if s.value == 0 || s.value > Decimal.signedLimit then
        .ok (.float (-s.value.toUInt64.toFloat), rest)
      else .ok (.integer (-(s.value : Int)), rest)
  match cs with
  | [] => faultAt .eofInValue []
  | '0' :: rest =>
    match rest with
    | c :: _ => if Decimal.isDigit c then faultNext .invalidNumber rest else finish ['0'] rest
    | [] => finish ['0'] []
  | c :: rest =>
    if Decimal.isDigit c then
      finish (cs.takeWhile Decimal.isDigit) (cs.dropWhile Decimal.isDigit)
    else faultNext .invalidNumber (c :: rest)

/-- The elements of an array up to and with the closing bracket. Each round consumes at least
one character, so `fuel` bounds the rounds. -/
def readItems (element : List Char → Except Fault (Value × List Char)) :
    Nat → Bool → List Char → Except Fault (List Value × List Char)
  | 0, _, rest => faultNext .eofInList rest
  | fuel + 1, first, cs =>
    let more (cs : List Char) : Except Fault (List Value × List Char) := do
      let (v, rest) ← element cs
      let (vs, rest) ← readItems element fuel false rest
      .ok (v :: vs, rest)
    match skipSpace cs with
    | [] => faultNext .eofInList []
    | ']' :: rest => .ok ([], rest)
    | c :: rest =>
      if first then more (c :: rest)
      else if c == ',' then
        match skipSpace rest with
        | [] => faultNext .eofInValue []
        | ']' :: rest => faultNext .trailingComma (']' :: rest)
        | rest => more rest
      else faultNext .expectedListCommaOrEnd (c :: rest)

/-- The entries of an object up to and with the closing brace. -/
def readEntries (element : List Char → Except Fault (Value × List Char)) :
    Nat → Bool → List (String × Value) → List Char →
      Except Fault (List (String × Value) × List Char)
  | 0, _, _, rest => faultNext .eofInObject rest
  | fuel + 1, first, entries, cs =>
    let more (cs : List Char) : Except Fault (List (String × Value) × List Char) := do
      let (key, rest) ← readString cs
      match skipSpace rest with
      | ':' :: rest =>
        let (v, rest) ← element rest
        readEntries element fuel false (insertEntry entries key v) rest
      | [] => faultNext .eofInObject []
      | rest => faultNext .expectedColon rest
    match skipSpace cs with
    | [] => faultNext .eofInObject []
    | '\x7d' :: rest => .ok (entries, rest)
    | c :: rest =>
      if first then
        if c == '"' then more rest else faultNext .keyNotString (c :: rest)
      else if c == ',' then
        match skipSpace rest with
        | [] => faultNext .eofInValue []
        | '"' :: rest => more rest
        | '\x7d' :: rest => faultNext .trailingComma ('\x7d' :: rest)
        | rest => faultNext .keyNotString rest
      else faultNext .expectedObjectCommaOrEnd (c :: rest)

/-- A value in which at most `depth` brackets may be open at once. -/
def readValue (depth : Nat) (text : List Char) : Except Fault (Value × List Char) :=
  match skipSpace text with
  | [] => faultNext .eofInValue []
  | c :: rest =>
    if c == 'n' then readWord .null ['u', 'l', 'l'] rest
    else if c == 't' then readWord (.bool true) ['r', 'u', 'e'] rest
    else if c == 'f' then readWord (.bool false) ['a', 'l', 's', 'e'] rest
    else if c == '"' then do
      let (s, rest) ← readString rest
      .ok (.string s, rest)
    else if c == '-' then do
      let (n, rest) ← readNumber false rest
      .ok (.number n, rest)
    else if Decimal.isDigit c then do
      let (n, rest) ← readNumber true (c :: rest)
      .ok (.number n, rest)
    else if c == '[' then
      match depth with
      | 0 => faultNext .tooDeep (c :: rest)
      | depth + 1 => do
        let (items, rest) ← readItems (readValue depth) (rest.length + 1) true rest
        .ok (.array items, rest)
    else if c == '\x7b' then
      match depth with
      | 0 => faultNext .tooDeep (c :: rest)
      | depth + 1 => do
        let (entries, rest) ← readEntries (readValue depth) (rest.length + 1) true [] rest
        .ok (.object entries, rest)
    else faultNext .expectedValue (c :: rest)

def depthLimit : Nat := 127

/-- The whole of a text: nothing but space may follow. -/
def whole {α : Type} (read : List Char → Except Fault (α × List Char)) (text : List Char) :
    Except Fault α := do
  let (a, rest) ← read text
  match skipSpace rest with
  | [] => .ok a
  | rest => faultNext .trailingCharacters rest

structure Position where
  line : Nat
  column : Nat

def Position.pass (p : Position) (c : Char) (octets : Nat) : Position :=
  if c == '\n' then ⟨p.line + 1, 0⟩ else ⟨p.line, p.column + octets⟩

def Fault.position (f : Fault) (text : List Char) : Position :=
  let passed := (text.take (text.length - f.rest.length)).foldl
    (fun p c => p.pass c c.utf8Size) ⟨1, 0⟩
  match f.beyond, f.rest with
  | n + 1, c :: _ => passed.pass c (n + 1)
  | _, _ => passed

def Fault.message (f : Fault) (text : List Char) : String :=
  let p := f.position text
  f.cause.message ++ " at line " ++ toString p.line ++ " column " ++ toString p.column

/-- Reads one value from a whole text; the error is the full message. -/
def parse (text : String) : Except String Value :=
  match whole (readValue depthLimit) text.toList with
  | .ok v => .ok v
  | .error f => .error (f.message text.toList)

end TaskSynth.Json
