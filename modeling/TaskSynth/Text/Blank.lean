namespace TaskSynth.Text

/-- The `White_Space` property. -/
def isBlank (c : Char) : Bool :=
  let n := c.toNat
  (9 ≤ n && n ≤ 13) || n == 0x20 || n == 0x85 || n == 0xA0 || n == 0x1680 ||
    (0x2000 ≤ n && n ≤ 0x200A) || n == 0x2028 || n == 0x2029 || n == 0x202F ||
    n == 0x205F || n == 0x3000

def dropBlank (s : List Char) : List Char := s.dropWhile isBlank

def dropBlankEnd (s : List Char) : List Char := (s.reverse.dropWhile isBlank).reverse

def trimBlank (s : List Char) : List Char := dropBlankEnd (dropBlank s)

def trim (s : String) : String := String.ofList (trimBlank s.toList)

def trimEnd (s : String) : String := String.ofList (dropBlankEnd s.toList)

end TaskSynth.Text
