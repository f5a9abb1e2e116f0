import TaskSynth.Decimal.Reading
import TaskSynth.Decimal.Word
import TaskSynth.Template.Expr

/-! The grammar of expressions. Each rule takes the characters at which it starts and gives
back what it found with the rest; alternatives are tried in order and the first that fits is
kept. Spaces may stand between any two parts. Every rule that can reach itself takes one from a
count of steps, which is chosen large enough for the length of the text. -/
namespace TaskSynth.Template

def isSpace (c : Char) : Bool := c == ' ' || c == '\t' || c == '\r' || c == '\n'

def skipSpace (cs : List Char) : List Char := cs.dropWhile isSpace

def strip? (word : String) (cs : List Char) : Option (List Char) :=
  let w := word.toList
  if w.isPrefixOf cs then some (cs.drop w.length) else none

def symbol? (word : String) (cs : List Char) : Option (List Char) := strip? word (skipSpace cs)

def isNameStart (c : Char) : Bool := c.isAlpha || c == '_'

def isNameChar (c : Char) : Bool := c.isAlphanum || c == '_'

def name? (cs : List Char) : Option (String × List Char) :=
  match cs with
  | c :: _ =>
    if isNameStart c then
      some (String.ofList (cs.takeWhile isNameChar), cs.dropWhile isNameChar)
    else none
  | [] => none

/-- The digits of a natural number: a zero stands alone. -/
def digits? : List Char → Option (List Char × List Char)
  | [] => none
  | c :: rest =>
    if c == '0' then some (['0'], rest)
    else if Decimal.isDigit c then
      some (c :: rest.takeWhile Decimal.isDigit, rest.dropWhile Decimal.isDigit)
    else none

def sign (cs : List Char) : Bool × List Char :=
  match cs with
  | '-' :: rest => (true, rest)
  | _ => (false, cs)

def integerText? (cs : List Char) : Option (List Char × List Char) := do
  let (negative, cs) := sign cs
  let (ds, rest) ← digits? cs
  some (if negative then '-' :: ds else ds, rest)

/-- An integer of 64 bits. -/
def integer? (cs : List Char) : Option (Int × List Char) := do
  let (negative, cs) := sign cs
  let (ds, rest) ← digits? cs
  let n : Int := if negative then -(Decimal.natural ds : Int) else Decimal.natural ds
  if Decimal.fitsSigned n then some (n, rest) else none

def float? (cs : List Char) : Option (Float × List Char) := do
  let (negative, cs) := sign cs
  let (ds, rest) ← digits? cs
  let rest ← strip? "." rest
  let fraction := rest.takeWhile Decimal.isDigit
  if fraction.isEmpty then none
  else
    let x := Decimal.nearest (Decimal.natural (ds ++ fraction)) (-(fraction.length : Int))
    some (if negative then -x else x, rest.dropWhile Decimal.isDigit)

/-- A string in any of the three quotes; it holds no escapes. -/
def string? (cs : List Char) : Option (String × List Char) :=
  match cs with
  | q :: rest =>
    if q == '"' || q == '\x27' || q == '\x60' then
      match rest.dropWhile (· != q) with
      | _ :: tail => some (String.ofList (rest.takeWhile (· != q)), tail)
      | [] => none
    else none
  | [] => none

def bool? (cs : List Char) : Option (Bool × List Char) :=
  match strip? "true" cs <|> strip? "True" cs with
  | some rest => some (true, rest)
  | none =>
    match strip? "false" cs <|> strip? "False" cs with
    | some rest => some (false, rest)
    | none => none

mutual

def pathTail (p : Path) : Nat → List Char → Path × List Char
  | 0, cs => (p, cs)
  | steps + 1, cs =>
    match cs with
    | '.' :: c :: rest =>
      if isNameChar c then
        let member := String.ofList (c :: rest.takeWhile isNameChar)
        pathTail (.member p member) steps (rest.dropWhile isNameChar)
      else (p, cs)
    | '[' :: rest =>
      match bracket? p steps rest with
      | some (q, rest) => pathTail q steps rest
      | none => (p, cs)
    | _ => (p, cs)

def bracket? (p : Path) : Nat → List Char → Option (Path × List Char)
  | 0, _ => none
  | steps + 1, cs =>
    match integerText? cs with
    | some (ds, rest) => (strip? "]" rest).map fun rest => (.index p (String.ofList ds), rest)
    | none =>
      match string? cs with
      | some (s, rest) => (strip? "]" rest).map fun rest => (.index p s, rest)
      | none =>
        match path? steps cs with
        | some (q, rest) => (strip? "]" rest).map fun rest => (.through p q, rest)
        | none => none

def path? : Nat → List Char → Option (Path × List Char)
  | 0, _ => none
  | steps + 1, cs => do
    let (root, rest) ← name? cs
    some (pathTail (.root root) steps rest)

end

/-- Puts a named argument into place; of two with one name the later counts. -/
def addArgument (args : List (String × Expr)) (name : String) (e : Expr) : List (String × Expr) :=
  args.filter (fun a => a.1 != name) ++ [(name, e)]

def arithOp? (cs : List Char) : Option (ArithOp × List Char) :=
  match cs with
  | '+' :: rest => some (.add, rest)
  | '-' :: rest => some (.sub, rest)
  | '*' :: rest => some (.mul, rest)
  | '/' :: rest => some (.div, rest)
  | '%' :: rest => some (.rem, rest)
  | _ => none

def ArithOp.bindsTight : ArithOp → Bool
  | .add => false
  | .sub => false
  | _ => true

def compareOp? (cs : List Char) : Option (LogicOp × List Char) :=
  match cs with
  | '=' :: '=' :: rest => some (.eq, rest)
  | '!' :: '=' :: rest => some (.ne, rest)
  | '>' :: '=' :: rest => some (.ge, rest)
  | '>' :: rest => some (.gt, rest)
  | '<' :: '=' :: rest => some (.le, rest)
  | '<' :: rest => some (.lt, rest)
  | _ => none

def wordThenSpace? (word : String) (cs : List Char) : Option (List Char) := do
  match ← strip? word cs with
  | c :: rest => if isSpace c then some rest else none
  | [] => none

def connective? (cs : List Char) : Option (LogicOp × List Char) :=
  match wordThenSpace? "or" cs with
  | some rest => some (.or, rest)
  | none => (wordThenSpace? "and" cs).map fun rest => (.and, rest)

def arithTerm (op : ArithOp) (l r : Term) : Term := .arith op (.ofTerm l) (.ofTerm r)

/-- Joins operands from the left: a product is finished before the sum it stands in. `sum` is
what is to be added to `product`, if anything. -/
def joinArith (sum : Option (Term × ArithOp)) (product : Term) : List (ArithOp × Term) → Term
  | [] =>
    match sum with
    | some (l, op) => arithTerm op l product
    | none => product
  | (op, t) :: rest =>
    if op.bindsTight then joinArith sum (arithTerm op product t) rest
    else match sum with
      | some (l, op') => joinArith (some (arithTerm op' l product, op)) t rest
      | none => joinArith (some (product, op)) t rest

/-- Joins operands from the left: a conjunction is finished before the disjunction. -/
def joinLogic (alternatives : Option Expr) (conjunction : Expr) : List (LogicOp × Expr) → Expr
  | [] =>
    match alternatives with
    | some l => .ofTerm (.logic .or l conjunction)
    | none => conjunction
  | (op, e) :: rest =>
    if op = .and then joinLogic alternatives (.ofTerm (.logic .and conjunction e)) rest
    else match alternatives with
      | some l => joinLogic (some (.ofTerm (.logic .or l conjunction))) e rest
      | none => joinLogic (some conjunction) e rest

mutual

/-- `name(argument=value, …)`. -/
def call? : Nat → List Char → Option (Call × List Char)
  | 0, _ => none
  | steps + 1, cs => do
    let (name, rest) ← name? cs
    let rest ← symbol? "(" rest
    let (args, rest) := match arguments? [] steps rest with
      | some (args, rest) => (args, (symbol? "," rest).getD rest)
      | none => ([], rest)
    let rest ← symbol? ")" rest
    some ((name, args), rest)

/-- A call of a macro: the name of a name space and two colons stand in front. -/
def macroCall? : Nat → List Char → Option (Term × List Char)
  | 0, _ => none
  | steps + 1, cs => do
    let (space, rest) ← name? cs
    let rest ← symbol? "::" rest
    let ((name, args), rest) ← call? steps (skipSpace rest)
    some (.macroCall space name args, rest)

def arguments? (args : List (String × Expr)) : Nat → List Char →
    Option (List (String × Expr) × List Char)
  | 0, _ => none
  | steps + 1, cs => do
    let (name, rest) ← name? (skipSpace cs)
    let rest ← symbol? "=" rest
    let (e, rest) ← value? steps rest
    let args := addArgument args name e
    match symbol? "," rest with
    | some more =>
      match arguments? args steps more with
      | some r => some r
      | none => some (args, rest)
    | none => some (args, rest)

/-- A logical expression or an array, each with filters. -/
def value? : Nat → List Char → Option (Expr × List Char)
  | 0, _ => none
  | steps + 1, cs =>
    match logic? steps (skipSpace cs) with
    | some r => some r
    | none => arrayFiltered? steps (skipSpace cs)

def filters (found : List Call) : Nat → List Char → List Call × List Char
  | 0, cs => (found.reverse, cs)
  | steps + 1, cs =>
    match symbol? "|" cs with
    | none => (found.reverse, cs)
    | some rest =>
      match call? steps (skipSpace rest) with
      | some (f, rest) => filters (f :: found) steps rest
      | none =>
        match name? (skipSpace rest) with
        | some (name, rest) => filters ((name, []) :: found) steps rest
        | none => (found.reverse, cs)

def filtered (t : Term) (steps : Nat) (cs : List Char) : Expr × List Char :=
  match steps with
  | 0 => (.ofTerm t, cs)
  | steps + 1 =>
    let (fs, rest) := filters [] steps cs
    (.mk t false fs, rest)

def part? : Nat → List Char → Option (Term × List Char)
  | 0, _ => none
  | steps + 1, cs =>
    match call? steps cs with
    | some ((name, args), rest) => some (.call name args, rest)
    | none =>
      match float? cs with
      | some (x, rest) => some (.float x, rest)
      | none =>
        match integer? cs with
        | some (n, rest) => some (.integer n, rest)
        | none =>
          match string? cs with
          | some (s, rest) => some (.string s, rest)
          | none => (path? steps cs).map fun (p, rest) => (.path p, rest)

def partsAfter (found : List Term) : Nat → List Char → List Term × List Char
  | 0, cs => (found.reverse, cs)
  | steps + 1, cs =>
    match symbol? "~" cs with
    | none => (found.reverse, cs)
    | some rest =>
      match part? steps (skipSpace rest) with
      | some (t, rest) => partsAfter (t :: found) steps rest
      | none => (found.reverse, cs)

def concat? : Nat → List Char → Option (Term × List Char)
  | 0, _ => none
  | steps + 1, cs => do
    let (t, rest) ← part? steps cs
    match partsAfter [t] steps rest with
    | (_ :: [], _) => none
    | (parts, rest) => some (.concat parts, rest)

def stringFiltered? : Nat → List Char → Option (Expr × List Char)
  | 0, _ => none
  | steps + 1, cs =>
    match concat? steps cs with
    | some (t, rest) => some (filtered t steps rest)
    | none => (string? cs).map fun (s, rest) => filtered (.string s) steps rest

def testArguments? (found : List Expr) : Nat → List Char → Option (List Expr × List Char)
  | 0, _ => none
  | steps + 1, cs => do
    let (e, rest) ← value? steps cs
    match symbol? "," rest with
    | some more => testArguments? (e :: found) steps more
    | none =>
      let rest ← symbol? ")" rest
      some ((e :: found).reverse, rest)

def testCall? (p : Path) (negated : Bool) : Nat → List Char → Option (Term × List Char)
  | 0, _ => none
  | steps + 1, cs => do
    let (name, rest) ← name? (skipSpace cs)
    match symbol? "(" rest with
    | none => some (.test p negated name [], rest)
    | some more =>
      match testArguments? [] steps more with
      | some (args, rest) => some (.test p negated name args, rest)
      | none => some (.test p negated name [], rest)

def test? : Nat → List Char → Option (Term × List Char)
  | 0, _ => none
  | steps + 1, cs => do
    let (p, rest) ← path? steps cs
    let rest ← symbol? "is" rest
    match symbol? "not" rest with
    | some more =>
      match testCall? p true steps more with
      | some r => some r
      | none => testCall? p false steps rest
    | none => testCall? p false steps rest

def operand? : Nat → List Char → Option (Term × List Char)
  | 0, _ => none
  | steps + 1, cs =>
    match bool? cs with
    | some (b, rest) => some (.bool b, rest)
    | none =>
      match test? steps cs with
      | some r => some r
      | none =>
        match macroCall? steps cs with
        | some r => some r
        | none =>
          match call? steps cs with
          | some ((name, args), rest) => some (.call name args, rest)
          | none =>
            match path? steps cs with
            | some (p, rest) => some (.path p, rest)
            | none =>
              match float? cs with
              | some (x, rest) => some (.float x, rest)
              | none => (integer? cs).map fun (n, rest) => (.integer n, rest)

def factor? : Nat → List Char → Option (Term × List Char)
  | 0, _ => none
  | steps + 1, cs =>
    match parenthesized? steps cs with
    | some r => some r
    | none => operand? steps cs

def parenthesized? : Nat → List Char → Option (Term × List Char)
  | 0, _ => none
  | steps + 1, cs => do
    let rest ← strip? "(" cs
    let (t, rest) ← arith? steps (skipSpace rest)
    let rest ← symbol? ")" rest
    some (t, rest)

def factorsAfter (found : List (ArithOp × Term)) : Nat → List Char →
    List (ArithOp × Term) × List Char
  | 0, cs => (found.reverse, cs)
  | steps + 1, cs =>
    match arithOp? (skipSpace cs) with
    | none => (found.reverse, cs)
    | some (op, rest) =>
      match factor? steps (skipSpace rest) with
      | some (t, rest) => factorsAfter ((op, t) :: found) steps rest
      | none => (found.reverse, cs)

def arith? : Nat → List Char → Option (Term × List Char)
  | 0, _ => none
  | steps + 1, cs => do
    let (t, rest) ← factor? steps cs
    let (more, rest) := factorsAfter [] steps rest
    some (joinArith none t more, rest)

def arithFiltered? : Nat → List Char → Option (Expr × List Char)
  | 0, _ => none
  | steps + 1, cs => do
    let (t, rest) ← arith? steps cs
    some (filtered t steps rest)

def side? : Nat → List Char → Option (Expr × List Char)
  | 0, _ => none
  | steps + 1, cs =>
    match stringFiltered? steps cs with
    | some r => some r
    | none => arithFiltered? steps cs

def comparison? : Nat → List Char → Option (Expr × List Char)
  | 0, _ => none
  | steps + 1, cs => do
    let (l, rest) ← side? steps cs
    match compareOp? (skipSpace rest) with
    | none => some (l, rest)
    | some (op, more) =>
      match side? steps (skipSpace more) with
      | some (r, rest) => some (.ofTerm (.logic op l r), rest)
      | none => some (l, rest)

def container? : Nat → List Char → Option (Expr × List Char)
  | 0, _ => none
  | steps + 1, cs =>
    match stringFiltered? steps cs with
    | some r => some r
    | none =>
      match arrayFiltered? steps cs with
      | some r => some r
      | none => (path? steps cs).map fun (p, rest) => (.ofTerm (.path p), rest)

/-- `value in container`, or with a `not` before the `in`. -/
def membership? : Nat → List Char → Option (Expr × List Char)
  | 0, _ => none
  | steps + 1, cs => do
    let (l, rest) ← side? steps cs
    let (negated, rest) := match wordThenSpace? "not" (skipSpace rest) with
      | some rest => (true, rest)
      | none => (false, rest)
    let rest ← symbol? "in" rest
    let (r, rest) ← container? steps (skipSpace rest)
    some (.ofTerm (.isIn negated l r), rest)

/-- One operand of `and` and `or`. -/
def clause? : Nat → List Char → Option (Expr × List Char)
  | 0, _ => none
  | steps + 1, cs =>
    let (negated, inner) := match wordThenSpace? "not" cs with
      | some rest => (true, skipSpace rest)
      | none => (false, cs)
    let plain := match membership? steps inner with
      | some r => some r
      | none => comparison? steps inner
    match plain with
    | some (e, rest) => some (e.withNegation negated, rest)
    | none => do
      let rest ← strip? "(" inner
      let (e, rest) ← logic? steps (skipSpace rest)
      let rest ← symbol? ")" rest
      some (e.withNegation negated, rest)

def clausesAfter (found : List (LogicOp × Expr)) : Nat → List Char →
    List (LogicOp × Expr) × List Char
  | 0, cs => (found.reverse, cs)
  | steps + 1, cs =>
    match connective? (skipSpace cs) with
    | none => (found.reverse, cs)
    | some (op, rest) =>
      match clause? steps (skipSpace rest) with
      | some (e, rest) => clausesAfter ((op, e) :: found) steps rest
      | none => (found.reverse, cs)

def logic? : Nat → List Char → Option (Expr × List Char)
  | 0, _ => none
  | steps + 1, cs => do
    let (e, rest) ← clause? steps cs
    let (more, rest) := clausesAfter [] steps rest
    some (joinLogic none e more, rest)

/-- The elements of an array and its end; a comma may follow the last one. -/
def elements? (found : List Expr) : Nat → List Char → Option (List Expr × List Char)
  | 0, _ => none
  | steps + 1, cs =>
    match symbol? "]" cs with
    | some rest => some (found.reverse, rest)
    | none => do
      let (e, rest) ← clause? steps (skipSpace cs)
      match symbol? "," rest with
      | some rest => elements? (e :: found) steps rest
      | none =>
        let rest ← symbol? "]" rest
        some ((e :: found).reverse, rest)

def arrayFiltered? : Nat → List Char → Option (Expr × List Char)
  | 0, _ => none
  | steps + 1, cs => do
    let rest ← strip? "[" cs
    let (items, rest) ← elements? [] steps rest
    some (filtered (.array items) steps rest)

end

end TaskSynth.Template
