import TaskSynth.Json.Reader

/-! Struct tags: pairs `key:"value"` separated by spaces. A malformed pair ends the scan, so
what a tag says is the list of pairs before it; the first pair of a key decides, and its value
is read as a string literal. -/
namespace TaskSynth.StructTag

/-- A key has no control character, space, colon or quote. -/
def isKeyChar (c : Char) : Bool := ' ' < c && c != ':' && c != '"' && c != '\x7f'

/-- The characters of a literal before its closing quote, and what follows that quote. A
backslash takes the next character with it. -/
def closeQuote : List Char → Option (List Char × List Char)
  | [] => none
  | ['\\'] => none
  | '\\' :: c :: rest => (closeQuote rest).map fun (body, r) => ('\\' :: c :: body, r)
  | c :: rest =>
    if c == '"' then some ([], rest)
    else (closeQuote rest).map fun (body, r) => (c :: body, r)

/-- A key, the body of its literal, and the rest of the tag. -/
def nextPair? (tag : List Char) : Option (List Char × List Char × List Char) :=
  let text := tag.dropWhile (· == ' ')
  match text.takeWhile isKeyChar, text.dropWhile isKeyChar with
  | [], _ => none
  | key, ':' :: '"' :: rest => (closeQuote rest).map fun (body, r) => (key, body, r)
  | _, _ => none

/-- The pairs of a tag up to the first malformed one. Each is at least four characters long, so
the length of the tag bounds their number. -/
def pairsFrom : Nat → List Char → List (List Char × List Char)
  | 0, _ => []
  | fuel + 1, tag =>
    match nextPair? tag with
    | some (key, body, rest) => (key, body) :: pairsFrom fuel rest
    | none => []

def pairs (tag : List Char) : List (List Char × List Char) := pairsFrom tag.length tag

def literalValue? (body : List Char) : Option String :=
  match Json.whole Json.readString (body ++ ['"']) with
  | .ok s => some s
  | .error _ => none

def lookup (tag key : String) : Option String :=
  (pairs tag.toList).lookup key.toList >>= literalValue?

end TaskSynth.StructTag
