namespace TaskSynth.Yaml

def isBreak (c : Char) : Bool :=
  c == '\n' || c == '\r' || c == '\x85' || c == '\u2028' || c == '\u2029'

def isBlank (c : Char) : Bool := c == ' ' || c == '\t'

/-- Space, tab, line end or NUL. -/
def isGap (c : Char) : Bool := isBlank c || c == '\x00' || isBreak c

/-- Nothing or a gap. -/
def endsWord : List Char → Bool
  | [] => true
  | c :: _ => isGap c

/-- Characters that need no escape. -/
def isPrintable (c : Char) : Bool :=
  c == '\n' || ('\x20' ≤ c && c ≤ '\x7e') ||
    ('\xa0' ≤ c && c != '\ufeff' && c != '\ufffe' && c != '\uffff')

def isByteOrderMark (c : Char) : Bool := c == '\ufeff'

/-- Characters that may stand in a text that is read. -/
def isReadable (c : Char) : Bool :=
  c == '\t' || c == '\r' || c == '\x85' || isByteOrderMark c || isPrintable c

/-- What a line end counts as in a text: the two separators of Unicode stay what they are. -/
def lineEnd (c : Char) : Char := if c == '\u2028' || c == '\u2029' then c else '\n'

end TaskSynth.Yaml
