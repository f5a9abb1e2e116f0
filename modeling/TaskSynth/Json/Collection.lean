import TaskSynth.Content
import TaskSynth.Json.Reader

namespace TaskSynth.Json

/-- The complaint about a value that is no collection of the kind asked for. -/
def unexpectedKind {α : Type} (expected : String) (text : List Char) :
    Except Fault (α × List Char) :=
  match text with
  | [] => faultNext .eofInValue []
  | c :: rest =>
    if c == '[' then faultAt (.invalidType "sequence" expected) text
    else if c == '\x7b' then faultAt (.invalidType "map" expected) text
    else match readValue 0 (c :: rest) with
      | .ok (v, rest) => faultAt (.invalidType v.describe expected) rest
      | .error f => .error f

def readArray (text : List Char) : Except Fault (List Value × List Char) :=
  match skipSpace text with
  | '[' :: rest => readItems (readValue (depthLimit - 1)) (rest.length + 1) true rest
  | text => unexpectedKind "a sequence" text

def readObject (text : List Char) : Except Fault (List (String × Value) × List Char) :=
  match skipSpace text with
  | '\x7b' :: rest => readEntries (readValue (depthLimit - 1)) (rest.length + 1) true [] rest
  | text => unexpectedKind "a map" text

end TaskSynth.Json
