import TaskSynth.Decimal.Remainder
import TaskSynth.Json.Printer
import TaskSynth.Template.Expr
import TaskSynth.Text.Blank
import TaskSynth.Text.Grapheme
import TaskSynth.Text.Replace
import TaskSynth.Text.Words

/-! Values in templates: their text, their truth, arithmetic, and the filters, tests and functions
by name. `none` is an error; what went wrong is not told apart. -/
namespace TaskSynth.Template

open Json (Value Number)

/-- Floats are written without exponent, and without a point where they are whole. -/
def floatStyle : Decimal.Style := ⟨-400, 400, false, false⟩

def numberChars : Number → List Char
  | .integer n => (toString n).toList
  | .float x => floatStyle.text x

mutual

def textOf : Value → List Char
  | .null => []
  | .bool true => ['t', 'r', 'u', 'e']
  | .bool false => ['f', 'a', 'l', 's', 'e']
  | .number n => numberChars n
  | .string s => s.toList
  | .array items => '[' :: (textOfItems true items ++ [']'])
  | .object _ => "[object]".toList

def textOfItems (first : Bool) : List Value → List Char
  | [] => []
  | v :: rest => (if first then [] else [',', ' ']) ++ textOf v ++ textOfItems false rest

end

def isTruthy : Value → Bool
  | .null => false
  | .bool b => b
  | .number (.integer n) => n != 0
  | .number (.float x) => x != 0.0 && !x.isNaN
  | .string s => s != ""
  | .array items => !items.isEmpty
  | .object entries => !entries.isEmpty

def numberFloat : Number → Float
  | .integer n => Decimal.ofInt n
  | .float x => x

def floatNumber? (x : Float) : Option Number :=
  if x.isNaN || x.isInf then none else some (.float x)

def isSigned : Number → Option Int
  | .integer n => if Decimal.fitsSigned n then some n else none
  | .float _ => none

def isUnsigned : Number → Option Nat
  | .integer (.ofNat n) => if n < Decimal.unsignedLimit then some n else none
  | _ => none

/-- The outcome of arithmetic: a number, nothing where the result is no number, or an error. -/
abbrev Outcome := Option (Option Number)

/-- Integers stay integers while they fit into 64 bits, signed or unsigned. -/
def integerOp (onSigned : Int → Int → Option Int) (onUnsigned : Nat → Nat → Option Int)
    (onFloat : Float → Float → Float) (a b : Number) : Outcome :=
  match isSigned a, isSigned b with
  | some x, some y =>
    match onSigned x y with
    | some z => if Decimal.fitsSigned z then some (some (.integer z)) else none
    | none => none
  | _, _ =>
    match isUnsigned a, isUnsigned b with
    | some x, some y =>
      match onUnsigned x y with
      | some z => if Decimal.fitsUnsigned z then some (some (.integer z)) else none
      | none => none
    | _, _ => some (floatNumber? (onFloat (numberFloat a) (numberFloat b)))

/-- A quotient is taken on floats; a whole one becomes an integer again. -/
def divide (a b : Number) : Outcome :=
  let x := numberFloat a / numberFloat b
  if x.isNaN then some none
  else if x.isInf then some none
  else if x == x.floor then some (some (.integer (Decimal.toInt x)))
  else some (some (.float x))

def arith (op : ArithOp) (a b : Number) : Outcome :=
  match op with
  | .add => integerOp (fun x y => some (x + y)) (fun x y => some (x + y)) (· + ·) a b
  | .sub => integerOp (fun x y => some (x - y)) (fun x y => some ((x : Int) - y)) (· - ·) a b
  | .mul => integerOp (fun x y => some (x * y)) (fun x y => some (x * y)) (· * ·) a b
  | .rem =>
    integerOp (fun x y => if y = 0 then none else some (x.tmod y))
      (fun x y => if y = 0 then none else some (x % y)) Decimal.remainder a b
  | .div => divide a b

def compareFloats (op : LogicOp) (x y : Float) : Bool :=
  match op with
  | .lt => x < y
  | .le => x ≤ y
  | .gt => x > y
  | .ge => x ≥ y
  | _ => false

mutual

/-- Are two values the same? Numbers of different kinds are not. -/
def same : Value → Value → Bool
  | .null, .null => true
  | .bool a, .bool b => a == b
  | .number (.integer a), .number (.integer b) => a == b
  | .number (.float a), .number (.float b) => a == b
  | .string a, .string b => a == b
  | .array a, .array b => sameItems a b
  | _, _ => false

def sameItems : List Value → List Value → Bool
  | [], [] => true
  | a :: as, b :: bs => same a b && sameItems as bs
  | _, _ => false

end

/-- Equality as a template sees it: numbers are compared by size, and a number equals nothing
else. -/
def equal (a b : Value) : Option Bool :=
  match a, b with
  | .number x, .number y => some (numberFloat x == numberFloat y)
  | .number _, _ => none
  | _, .number _ => none
  | _, _ => some (same a b)

def occursIn (part : List Char) : List Char → Bool
  | [] => part.isEmpty
  | c :: rest => part.isPrefixOf (c :: rest) || occursIn part rest

def contains (container item : Value) : Option Bool :=
  match container, item with
  | .array items, v => some (items.any fun x => same x v)
  | .string s, .string part => some (occursIn part.toList s.toList)
  | .object entries, .string key => some (entries.any fun e => e.1 == key)
  | _, _ => none

def stringArg? (args : List (String × Value)) (name : String) : Option (List Char) :=
  match args.lookup name with
  | some (.string s) => some s.toList
  | _ => none

/-- Spelled-out line ends and tabs stand for themselves. -/
def unescape (s : List Char) : List Char :=
  Text.replaceAll ['\\', 't'] ['\t'] (Text.replaceAll ['\\', 'n'] ['\n'] s)

def ofChars (s : List Char) : Value := .string (String.ofList s)

def capitalize : List Char → List Char
  | [] => []
  | c :: rest => Text.upperChars c ++ Text.lower rest

def onText (f : List Char → List Char) : Value → Option Value
  | .string s => some (ofChars (f s.toList))
  | _ => none

def applyFilter (name : String) (args : List (String × Value)) (v : Value) : Option Value :=
  match name with
  | "upper" => onText Text.upper v
  | "lower" => onText Text.lower v
  | "capitalize" => onText capitalize v
  | "trim" => onText Text.trimBlank v
  | "snake_case" => onText Text.snakeCase v
  | "kebab_case" => onText Text.kebabCase v
  | "pascal_case" => onText Text.pascalCase v
  | "camel_case" => onText Text.camelCase v
  | "replace" => do
    let .string s := v | none
    some (ofChars (Text.replaceAll (← stringArg? args "from") (← stringArg? args "to") s.toList))
  | "split" => do
    let .string s := v | none
    let separator ← stringArg? args "pat"
    some (.array ((Text.splitOn (unescape separator) s.toList).map ofChars))
  | "join" => do
    let .array items := v | none
    let separator ← match args.lookup "sep" with
      | some (.string s) => some (unescape s.toList)
      | some _ => none
      | none => some []
    some (ofChars (separator.intercalate (items.map textOf)))
  | "first" => do
    let .array items := v | none
    some (items.headD (.string ""))
  | "last" => do
    let .array items := v | none
    some (items.getLastD (.string ""))
  | "length" =>
    match v with
    | .array items => some (.number (.integer items.length))
    | .string s => some (.number (.integer (Text.clusters s.toList).length))
    | _ => none
  | "reverse" =>
    match v with
    | .array items => some (.array items.reverse)
    | .string s => some (ofChars (Text.clusters s.toList).reverse.flatten)
    | _ => none
  | _ => none

def naturalArg? : Value → Option Nat
  | .number (.integer (.ofNat n)) => some n
  | _ => none

/-- The numbers from `i` in steps, as long as they stay below `stop`. -/
def countUp (stop step : Nat) : Nat → Nat → List Value
  | 0, _ => []
  | left + 1, i =>
    if i < stop then .number (.integer i) :: countUp stop step left (i + step) else []

/-- Functions that make a value of their arguments. -/
def applyFunction (name : String) (args : List (String × Value)) : Option Value :=
  match name with
  | "range" => do
    let start ← match args.lookup "start" with
      | some v => naturalArg? v
      | none => some 0
    let step ← match args.lookup "step_by" with
      | some v => naturalArg? v
      | none => some 1
    let stop ← naturalArg? (← args.lookup "end")
    if start > stop || step == 0 then none
    else some (.array (countUp stop step (stop - start) start))
  | _ => none

def size? : Value → Option Float
  | .number n => some (numberFloat n)
  | _ => none

/-- Tests by name on a value that may be missing; all but two need it. -/
def applyTest (name : String) (v : Option Value) (args : List Value) : Option Bool :=
  match name, v, args with
  | "defined", v, [] => some v.isSome
  | "undefined", v, [] => some v.isNone
  | "string", some v, [] => some (v matches .string _)
  | "number", some v, [] => some (v matches .number _)
  | "object", some v, [] => some (v matches .object _)
  | "iterable", some v, [] => some (v matches .array _)
  | "odd", some v, [] => do some (Decimal.remainder (← size? v) 2.0 != 0.0)
  | "even", some v, [] => do some (Decimal.remainder (← size? v) 2.0 == 0.0)
  | "divisibleby", some v, [d] => do some (Decimal.remainder (← size? v) (← size? d) == 0.0)
  | "starting_with", some (.string s), [.string p] => some (p.toList.isPrefixOf s.toList)
  | "ending_with", some (.string s), [.string p] => some (p.toList.isSuffixOf s.toList)
  | "containing", some v, [item] => contains v item
  | _, _, _ => none

end TaskSynth.Template
