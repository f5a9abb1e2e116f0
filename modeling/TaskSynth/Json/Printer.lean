import TaskSynth.Decimal.Shortest
import TaskSynth.Json.Value

namespace TaskSynth.Json

def hexDigit (n : Nat) : Char := if n < 10 then Char.ofNat (48 + n) else Char.ofNat (87 + n)

def escapedChar (c : Char) : List Char :=
  if c == '"' then ['\\', '"']
  else if c == '\\' then ['\\', '\\']
  else if c.toNat ≥ 0x20 then [c]
  else if c == '\x08' then ['\\', 'b']
  else if c == '\t' then ['\\', 't']
  else if c == '\n' then ['\\', 'n']
  else if c == '\x0c' then ['\\', 'f']
  else if c == '\r' then ['\\', 'r']
  else ['\\', 'u', '0', '0', hexDigit (c.toNat / 16), hexDigit (c.toNat % 16)]

def literal (s : List Char) : List Char := '"' :: (s.flatMap escapedChar ++ ['"'])

/-- Positional from `1e-5` up to below `1e16`; an exponent always carries its sign. -/
def floatStyle : Decimal.Style := ⟨-5, 15, true, true⟩

def Number.chars : Number → List Char
  | .integer n => (toString n).toList
  | .float x => floatStyle.text x

mutual

def Value.chars : Value → List Char
  | .null => ['n', 'u', 'l', 'l']
  | .bool true => ['t', 'r', 'u', 'e']
  | .bool false => ['f', 'a', 'l', 's', 'e']
  | .number n => n.chars
  | .string s => literal s.toList
  | .array items => '[' :: (itemChars true items ++ [']'])
  | .object entries => '\x7b' :: (entryChars true entries ++ ['\x7d'])

def itemChars (first : Bool) : List Value → List Char
  | [] => []
  | v :: rest => (if first then [] else [',']) ++ v.chars ++ itemChars false rest

def entryChars (first : Bool) : List (String × Value) → List Char
  | [] => []
  | (k, v) :: rest =>
    (if first then [] else [',']) ++ literal k.toList ++ ':' :: (v.chars ++ entryChars false rest)

end

def Value.text (v : Value) : String := String.ofList v.chars

end TaskSynth.Json
