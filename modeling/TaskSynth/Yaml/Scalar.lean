import TaskSynth.Yaml.Character
import TaskSynth.Yaml.Plain

/-! Text as a YAML scalar: unquoted where that reads back as the same text, as a block of lines
where it has line ends, else in single quotes, and in double quotes where nothing else keeps it.
-/
namespace TaskSynth.Yaml

/-- Characters that mean something at the start of a node. -/
def isIndicator (c : Char) : Bool :=
  ['#', ',', '[', ']', '\x7b', '\x7d', '&', '*', '!', '|', '>', '\x27', '"', '%', '@',
    '\x60'].elem c

/-- Starts like the mark between documents, or like a collection entry, or with an indicator. -/
def startsSpecial (s : List Char) : Bool :=
  match s with
  | '-' :: '-' :: '-' :: _ => true
  | '.' :: '.' :: '.' :: _ => true
  | '-' :: rest => endsWord rest
  | '?' :: rest => endsWord rest
  | c :: _ => isIndicator c
  | [] => false

/-- Holds a colon at the end of a word, or a number sign after a gap. -/
def holdsSpecial : List Char → Bool
  | [] => false
  | c :: rest =>
    (c == ':' && endsWord rest) ||
      (isGap c && (match rest with
        | '#' :: _ => true
        | _ => false)) ||
      holdsSpecial rest

/-- Two neighbours of which the first passes one test and the second the other. -/
def hasPair (f g : Char → Bool) : List Char → Bool
  | a :: b :: rest => (f a && g b) || hasPair f g (b :: rest)
  | _ => false

def isSpace (c : Char) : Bool := c == ' '

def mayBePlain (s : List Char) : Bool :=
  Plain.isText s && s.all (fun c => isPrintable c && !isBreak c) && !s.head?.any isSpace &&
    !s.getLast?.any isSpace && !startsSpecial s && !holdsSpecial s

def mayBeBlock (s : List Char) : Bool :=
  s.all isPrintable && !hasPair isSpace isBreak s && !s.getLast?.any isSpace

def mayBeSingleQuoted (s : List Char) : Bool :=
  s.all isPrintable && !hasPair isSpace isBreak s && !hasPair isBreak isSpace s

inductive ScalarStyle where
  | plain | singleQuoted | doubleQuoted | block
  deriving DecidableEq

def ScalarStyle.ofText (s : List Char) : ScalarStyle :=
  if s.elem '\n' then (if mayBeBlock s then .block else .doubleQuoted)
  else if mayBePlain s then .plain
  else if mayBeSingleQuoted s then .singleQuoted
  else .doubleQuoted

def margin (width : Nat) : List Char := List.replicate width ' '

/-- Text between single quotes: a quote is written twice, and a new line starts at the margin. -/
def singleQuoted (width : Nat) (s : List Char) : List Char :=
  let rec go (atStart : Bool) : List Char → List Char
    | [] => if atStart then margin width else []
    | c :: rest =>
      if isBreak c then c :: go true rest
      else (if atStart then margin width else []) ++
        (if c == '\x27' then [c, c] else [c]) ++ go false rest
  '\x27' :: (go false s ++ ['\x27'])

def upperHex (n : Nat) : Char := if n < 10 then Char.ofNat (48 + n) else Char.ofNat (55 + n)

/-- The last `count` hexadecimal digits of a number. -/
def hexDigits : Nat → Nat → List Char
  | 0, _ => []
  | count + 1, n => hexDigits count (n / 16) ++ [upperHex (n % 16)]

def escaped (c : Char) : List Char :=
  if c == '\x00' then ['\\', '0']
  else if c == '\x07' then ['\\', 'a']
  else if c == '\x08' then ['\\', 'b']
  else if c == '\t' then ['\\', 't']
  else if c == '\n' then ['\\', 'n']
  else if c == '\x0b' then ['\\', 'v']
  else if c == '\x0c' then ['\\', 'f']
  else if c == '\r' then ['\\', 'r']
  else if c == '\x1b' then ['\\', 'e']
  else if c == '"' then ['\\', '"']
  else if c == '\\' then ['\\', '\\']
  else if c == '\x85' then ['\\', 'N']
  else if c == '\u2028' then ['\\', 'L']
  else if c == '\u2029' then ['\\', 'P']
  else if isPrintable c then [c]
  else if c.toNat ≤ 0xff then '\\' :: 'x' :: hexDigits 2 c.toNat
  else if c.toNat ≤ 0xffff then '\\' :: 'u' :: hexDigits 4 c.toNat
  else '\\' :: 'U' :: hexDigits 8 c.toNat

def doubleQuoted (s : List Char) : List Char := '"' :: (s.flatMap escaped ++ ['"'])

/-- How the line ends at the end of a block count: `-` if there is none, `+` if there are several
or nothing else. -/
def chomping (s : List Char) : List Char :=
  match s.reverse with
  | [] => ['-']
  | [c] => if isBreak c then ['+'] else ['-']
  | c :: d :: _ => if !isBreak c then ['-'] else if isBreak d then ['+'] else []

/-- The lines of a block, each at the margin; empty lines have none. -/
def blockLines (width : Nat) (atStart : Bool) : List Char → List Char
  | [] => if atStart then [] else ['\n']
  | c :: rest =>
    if isBreak c then c :: blockLines width true rest
    else (if atStart then margin width else []) ++ c :: blockLines width false rest

def block (width : Nat) (s : List Char) : List Char :=
  let indentation := if s.head?.any fun c => isSpace c || isBreak c then ['2'] else []
  '|' :: (indentation ++ chomping s ++ '\n' :: blockLines width true s)

/-- The lines of a text, the first one without its margin and the last one closed. -/
def scalarLines (width : Nat) (s : List Char) : List Char :=
  match ScalarStyle.ofText s with
  | .plain => s ++ ['\n']
  | .singleQuoted => singleQuoted width s ++ ['\n']
  | .doubleQuoted => doubleQuoted s ++ ['\n']
  | .block => block width s

end TaskSynth.Yaml
