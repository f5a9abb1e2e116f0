import TaskSynth.Decimal.Reading
import TaskSynth.Yaml.Cursor

namespace TaskSynth.Yaml.Token

def simpleEscape? : Char → Option Char
  | '0' => some '\x00'
  | 'a' => some '\x07'
  | 'b' => some '\x08'
  | 't' => some '\t'
  | '\t' => some '\t'
  | 'n' => some '\n'
  | 'v' => some '\x0b'
  | 'f' => some '\x0c'
  | 'r' => some '\r'
  | 'e' => some '\x1b'
  | ' ' => some ' '
  | '"' => some '"'
  | '/' => some '/'
  | '\\' => some '\\'
  | 'N' => some '\x85'
  | '_' => some '\xa0'
  | 'L' => some '\u2028'
  | 'P' => some '\u2029'
  | _ => none

/-- How many digits follow a letter that starts a code. -/
def codeLength? : Char → Option Nat
  | 'x' => some 2
  | 'u' => some 4
  | 'U' => some 8
  | _ => none

/-- The character of a code; surrogates and numbers beyond the last character are none. -/
def character? (code : Nat) : Option Char :=
  if code < 0xD800 || (0xDFFF < code && code ≤ 0x10FFFF) then some (Char.ofNat code) else none

/-- The character of an escape and how many characters after the backslash make it. -/
def escape? : List Char → Option (Char × Nat)
  | [] => none
  | c :: rest =>
    match simpleEscape? c, codeLength? c with
    | some x, _ => some (x, 1)
    | none, some count => do
      let digits := rest.take count
      if digits.length = count then
        let x ← character? (← Decimal.natural? 16 digits)
        some (x, count + 1)
      else none
    | none, none => none

structure QuotedWord where
  text : List Char
  joined : Bool
  after : Cursor

def QuotedWord.cons (c : Char) (w : QuotedWord) : QuotedWord := { w with text := c :: w.text }

def isQuote (double : Bool) (c : Char) : Bool := if double then c == '"' else c == '\x27'

/-- Reads a word; `skip` characters belong to what has been read already. -/
def quotedWord (double : Bool) : Nat → Mark → List Char → Option QuotedWord
  | skip + 1, m, _ :: rest => quotedWord double skip m.next rest
  | _, m, [] => some ⟨[], false, ⟨m, []⟩⟩
  | 0, m, c :: rest =>
    if isGap c then some ⟨[], false, ⟨m, c :: rest⟩⟩
    else if isQuote double c then
      if !double && rest.head?.any (isQuote double) then
        (quotedWord double 1 m.next rest).map (·.cons c)
      else some ⟨[], false, ⟨m, c :: rest⟩⟩
    else if double && c == '\\' then
      if rest.head?.any isBreak then some ⟨[], true, (⟨m.next, rest⟩ : Cursor).skipBreak⟩
      else
        match escape? rest with
        | some (x, count) => (quotedWord double count m.next rest).map (·.cons x)
        | none => none
    else (quotedWord double 0 m.next rest).map (·.cons c)

def quotedWords (double : Bool) : Nat → Cursor → Option (List Char × Cursor)
  | 0, _ => none
  | steps + 1, c => do
    if c.atDocumentMark || c.rest.isEmpty then none
    else
      let w ← quotedWord double 0 c.mark c.rest
      if w.after.rest.head?.any (isQuote double) then some (w.text, w.after.skip 1)
      else
        let start := if w.joined then Gap.escaped else Gap.empty
        let (g, c) ← Gap.read 0 start w.after.mark w.after.rest
        let (more, c) ← quotedWords double steps c
        some (w.text ++ g.text ++ more, c)

def quoted (double : Bool) (c : Cursor) : Option (List Char × Cursor) :=
  quotedWords double (c.rest.length + 1) (c.skip 1)

end TaskSynth.Yaml.Token
