import TaskSynth.Text.Table.Cased
import TaskSynth.Text.Table.Casing
import TaskSynth.Text.Table.Letter

/-! Case mapping. The full upper case of a character may be several characters and is
what names of environment variables use; the simple upper case is always one character.
Lower case knows one context: a capital sigma at the end of a word. -/
namespace TaskSynth.Text

def isAlphanumeric (c : Char) : Bool :=
  if c.toNat < 0x80 then c.isAlphanum else covers Table.alphanumeric c.toNat

def isUppercase (c : Char) : Bool :=
  if c.toNat < 0x80 then c.isUpper else covers Table.uppercase c.toNat

def isLowercase (c : Char) : Bool :=
  if c.toNat < 0x80 then c.isLower else covers Table.lowercase c.toNat

/-- The upper case of one character as one character. -/
def simpleUpper (c : Char) : Char :=
  if c.toNat < 0x80 then c.toUpper else Char.ofNat (applyShift Table.upper c.toNat)

def upperChars (c : Char) : List Char :=
  if c.toNat < 0x80 then [c.toUpper]
  else match Table.upperSpecial.lookup c.toNat with
    | some cs => cs.map Char.ofNat
    | none => [simpleUpper c]

/-- The lower case of one character out of context: only the dotted capital I has two. -/
def lowerChars (c : Char) : List Char :=
  if c.toNat < 0x80 then [c.toLower]
  else if c.toNat == 0x130 then ['i', Char.ofNat 0x307]
  else [Char.ofNat (applyShift Table.lower c.toNat)]

def upper (s : List Char) : List Char := s.flatMap upperChars

def toUpper (s : String) : String := String.ofList (upper s.toList)

def isCased (c : Char) : Bool := covers Table.cased c.toNat

def isCaseIgnorable (c : Char) : Bool := covers Table.caseIgnorable c.toNat

/-- Is the next character that matters for casing a cased one? -/
def meetsCased (s : List Char) : Bool :=
  match s.dropWhile isCaseIgnorable with
  | c :: _ => isCased c
  | [] => false

/-- `before` holds the characters already passed, the nearest first. -/
def lowerFrom (before : List Char) : List Char → List Char
  | [] => []
  | c :: rest =>
    let image :=
      if c.toNat == 0x3A3 then
        if meetsCased before && !meetsCased rest then [Char.ofNat 0x3C2] else [Char.ofNat 0x3C3]
      else lowerChars c
    image ++ lowerFrom (c :: before) rest

def lower (s : List Char) : List Char := lowerFrom [] s

def toLower (s : String) : String := String.ofList (lower s.toList)

end TaskSynth.Text
