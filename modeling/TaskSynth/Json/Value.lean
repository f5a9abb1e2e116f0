namespace TaskSynth.Json

/-- Numbers keep apart what was written as an integer and what was not. An integer is at least
`-2 ^ 63` and below `2 ^ 64`; a float is finite. -/
inductive Number where
  | integer (n : Int)
  | float (x : Float)
  deriving Inhabited

inductive Value where
  | null
  | bool (b : Bool)
  | number (n : Number)
  | string (s : String)
  | array (items : List Value)
  | object (entries : List (String × Value))
  deriving Inhabited

/-- Adds an entry. A key that is already present keeps its place and takes the new value. -/
def insertEntry {α : Type} (entries : List (String × α)) (key : String) (value : α) :
    List (String × α) :=
  match entries with
  | [] => [(key, value)]
  | (k, v) :: rest =>
    if k = key then (k, value) :: rest else (k, v) :: insertEntry rest key value

namespace Value

def get? : Value → String → Option Value
  | object entries, key => entries.lookup key
  | _, _ => none

def string? : Value → Option String
  | string s => some s
  | _ => none

def array? : Value → Option (List Value)
  | array items => some items
  | _ => none

def bool? : Value → Option Bool
  | bool b => some b
  | _ => none

def integer? : Value → Option Int
  | number (.integer n) => some n
  | _ => none

def ofOption {α : Type} (f : α → Value) : Option α → Value
  | some a => f a
  | none => null

end Value

end TaskSynth.Json
