import TaskSynth.Json.Printer

namespace TaskSynth.Json

def newLine (level : Nat) : List Char := '\n' :: List.replicate (2 * level) ' '

mutual

def Value.prettyChars (level : Nat) : Value → List Char
  | .array [] => ['[', ']']
  | .array (v :: rest) =>
    '[' :: (newLine (level + 1) ++ v.prettyChars (level + 1) ++ prettyItems (level + 1) rest ++
      newLine level ++ [']'])
  | .object [] => ['\x7b', '\x7d']
  | .object ((k, v) :: rest) =>
    '\x7b' :: (newLine (level + 1) ++ literal k.toList ++ ':' :: ' ' ::
      v.prettyChars (level + 1) ++ prettyEntries (level + 1) rest ++ newLine level ++ ['\x7d'])
  | v => v.chars

def prettyItems (level : Nat) : List Value → List Char
  | [] => []
  | v :: rest => ',' :: (newLine level ++ v.prettyChars level ++ prettyItems level rest)

def prettyEntries (level : Nat) : List (String × Value) → List Char
  | [] => []
  | (k, v) :: rest =>
    ',' :: (newLine level ++ literal k.toList ++ ':' :: ' ' :: v.prettyChars level ++
      prettyEntries level rest)

end

def Value.pretty (v : Value) : String := String.ofList (v.prettyChars 0)

end TaskSynth.Json
