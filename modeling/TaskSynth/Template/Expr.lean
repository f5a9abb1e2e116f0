import TaskSynth.Json.Value

namespace TaskSynth.Template

inductive ArithOp where
  | add | sub | mul | div | rem
  deriving DecidableEq

inductive LogicOp where
  | or | and | lt | le | gt | ge | eq | ne
  deriving DecidableEq

/-- How a value is found in the context: a name, then members by name, by a literal key in
brackets, or by the value of another path in brackets. -/
inductive Path where
  | root (name : String)
  | member (p : Path) (name : String)
  | index (p : Path) (key : String)
  | through (p : Path) (q : Path)
  deriving DecidableEq

mutual

inductive Term where
  | string (s : String)
  | integer (n : Int)
  | float (x : Float)
  | bool (b : Bool)
  | path (p : Path)
  | arith (op : ArithOp) (l r : Expr)
  | logic (op : LogicOp) (l r : Expr)
  | isIn (negated : Bool) (l r : Expr)
  | test (p : Path) (negated : Bool) (name : String) (args : List Expr)
  | call (name : String) (args : List (String × Expr))
  | macroCall (space name : String) (args : List (String × Expr))
  | array (items : List Expr)
  | concat (parts : List Term)

/-- A term with the filters applied to it; `negated` inverts what comes out of them. -/
inductive Expr where
  | mk (term : Term) (negated : Bool) (filters : List (String × List (String × Expr)))

end

abbrev Call := String × List (String × Expr)

namespace Expr

def term : Expr → Term
  | mk t _ _ => t

def negated : Expr → Bool
  | mk _ n _ => n

def filters : Expr → List Call
  | mk _ _ fs => fs

def ofTerm (t : Term) : Expr := mk t false []

/-- The negation that stands in front replaces any that was inside parentheses. -/
def withNegation (e : Expr) (negated : Bool) : Expr := mk e.term negated e.filters

end Expr

inductive Node where
  | text (s : List Char)
  | output (e : Expr)
  | assign (everywhere : Bool) (name : String) (e : Expr)
  | filtered (filter : Call) (body : List Node)
  | choice (branches : List (Expr × List Node)) (otherwise : List Node)
  | loop (key : Option String) (value : String) (container : Expr) (body : List Node)
      (whenEmpty : List Node)
  | stop
  | skip
  | block (name : String) (body : List Node)
  | embed (names : List String) (mayMiss : Bool)
  | macroDefinition (name : String)

end TaskSynth.Template
