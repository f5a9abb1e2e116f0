import TaskSynth.Template.Filter
import TaskSynth.Template.Scope

/-! The values of expressions. A count of levels bounds the nesting; the length of the template is
more than any expression in it needs. -/
namespace TaskSynth.Template

open Json (Value Number)

/-- Why something has no value: it is at fault, or nested more deeply than is looked into. -/
inductive Halt where
  | failed
  | tooDeep
  deriving DecidableEq

abbrev Result := Except Halt

def found {α : Type} : Option α → Result α
  | some x => .ok x
  | none => .error .failed

/-- Where a fault counts as false. -/
def truthOf : Result Value → Result Bool
  | .ok v => .ok (isTruthy v)
  | .error .failed => .ok false
  | .error .tooDeep => .error .tooDeep

/-- A default stands in only where it is the first filter. -/
def hasDefault (filters : List Call) : Bool :=
  match filters with
  | ("default", _) :: _ => true
  | _ => false

/-- Two filters do nothing to a value that is there. -/
def isPassive (name : String) : Bool := name == "safe" || name == "default"

def isMissing : Option Value → Bool
  | none => true
  | some .null => true
  | some _ => false

mutual

/-- The value of an expression, with its filters and its negation. -/
def eval (s : Scope) : Nat → Expr → Result Value
  | 0, _ => .error .tooDeep
  | depth + 1, .mk (.path p) negated filters =>
    let given := s.value? p
    if given.isNone && negated && !hasDefault filters then .ok (.bool true)
    else do
      let v ← if isMissing given && hasDefault filters then evalDefault s depth filters
        else found given
      let v ← evalFilters s depth filters v
      return if negated then .bool (!isTruthy v) else v
  | depth + 1, .mk t negated filters => do
    let v ← evalTerm s depth t negated filters
    let v ← evalFilters s depth filters v
    return if negated then .bool (!isTruthy v) else v

def evalDefault (s : Scope) : Nat → List Call → Result Value
  | 0, _ => .error .tooDeep
  | depth + 1, filters => do
    let (_, args) ← found filters.head?
    eval s depth (← found (args.lookup "value"))

def evalFilters (s : Scope) : Nat → List Call → Value → Result Value
  | 0, _, _ => .error .tooDeep
  | _, [], v => .ok v
  | depth + 1, (name, args) :: rest, v => do
    if isPassive name then evalFilters s depth rest v
    else
      let v ← found (applyFilter name (← evalArgs s depth args) v)
      evalFilters s depth rest v

def evalArgs (s : Scope) : Nat → List (String × Expr) → Result (List (String × Value))
  | 0, _ => .error .tooDeep
  | _, [] => .ok []
  | depth + 1, (name, e) :: rest => do
    let v ← eval s depth e
    let vs ← evalArgs s depth rest
    return (name, v) :: vs

def evalItems (s : Scope) : Nat → List Expr → Result (List Value)
  | 0, _ => .error .tooDeep
  | _, [] => .ok []
  | depth + 1, e :: rest => do
    let v ← eval s depth e
    let vs ← evalItems s depth rest
    return v :: vs

def evalTerm (s : Scope) : Nat → Term → Bool → List Call → Result Value
  | 0, _, _, _ => .error .tooDeep
  | depth + 1, t, negated, filters =>
    match t with
    | .string text => .ok (.string text)
    | .integer n => .ok (.number (.integer n))
    | .float x => .ok (.number (.float x))
    | .bool b => .ok (.bool b)
    | .path p => found (s.value? p)
    | .array items => (evalItems s depth items).map .array
    | .concat parts => (evalParts s depth parts).map ofChars
    | .call name args => do found (applyFunction name (← evalArgs s depth args))
    | .macroCall .. => .error .failed
    | .isIn negated l r => (evalIn s depth negated l r).map .bool
    | .test p negated name args => (evalTest s depth p negated name args).map .bool
    | .logic .. => (evalBool s depth (.mk t negated filters)).map .bool
    | .arith .. => do
      match ← evalNumber s depth t with
      | some n => return .number n
      | none => return .string "NaN"

/-- The text of the parts of a concatenation: strings and numbers. -/
def evalParts (s : Scope) : Nat → List Term → Result (List Char)
  | 0, _ => .error .tooDeep
  | _, [] => .ok []
  | depth + 1, t :: rest => do
    let text ← match t with
      | .string text => .ok text.toList
      | .integer n => .ok (toString n).toList
      | .float x => .ok (floatStyle.text x)
      | t => do
        match ← evalTerm s depth t false [] with
        | .string text => .ok text.toList
        | .number n => .ok n.chars
        | _ => .error .failed
    let more ← evalParts s depth rest
    return text ++ more

def evalIn (s : Scope) : Nat → Bool → Expr → Expr → Result Bool
  | 0, _, _, _ => .error .tooDeep
  | depth + 1, negated, l, r => do
    let item ← eval s depth l
    let container ← eval s depth r
    return (← found (contains container item)) != negated

def evalTest (s : Scope) : Nat → Path → Bool → String → List Expr → Result Bool
  | 0, _, _, _, _ => .error .tooDeep
  | depth + 1, p, negated, name, args => do
    let args ← evalItems s depth args
    return (← found (applyTest name (s.value? p) args)) != negated

/-- The number that a term is; `none` is a result that is no number. -/
def evalNumber (s : Scope) : Nat → Term → Result (Option Number)
  | 0, _ => .error .tooDeep
  | depth + 1, t =>
    match t with
    | .integer n => .ok (some (.integer n))
    | .float x => .ok (some (.float x))
    | .path p =>
      match s.value? p with
      | some (.number n) => .ok (some n)
      | _ => .error .failed
    | .call name args => do
      match ← found (applyFunction name (← evalArgs s depth args)) with
      | .number n => .ok (some n)
      | _ => .error .failed
    | .arith op l r => do
      let a ← evalOperand s depth l
      let b ← evalOperand s depth r
      match a, b with
      | some a, some b => found (arith op a b)
      | _, _ => .ok none
    | _ => .error .failed

/-- The number that an expression is; with filters it is whatever comes out of them. -/
def evalOperand (s : Scope) : Nat → Expr → Result (Option Number)
  | 0, _ => .error .tooDeep
  | depth + 1, e =>
    if e.filters.isEmpty then evalNumber s depth e.term
    else do
      match ← eval s depth e with
      | .number n => .ok (some n)
      | _ => .error .failed

/-- The truth of an expression. A missing or faulty path is false. Filters count for paths and
for the sides of comparisons only. -/
def evalBool (s : Scope) : Nat → Expr → Result Bool
  | 0, _ => .error .tooDeep
  | depth + 1, e => do
    let b ← match e.term with
      | .path _ => (truthOf (eval s depth e)).map (· != e.negated)
      | .logic .or l r => do
        if ← evalBool s depth l then .ok true else evalBool s depth r
      | .logic .and l r => do
        if ← evalBool s depth l then evalBool s depth r else .ok false
      | .logic .eq l r => do
        let a ← eval s depth l
        let b ← eval s depth r
        .ok ((equal a b).getD false)
      | .logic .ne l r => do
        let a ← eval s depth l
        let b ← eval s depth r
        .ok (((equal a b).map (!·)).getD false)
      | .logic op l r => do
        let some a ← evalOperand s depth l | .error .failed
        let some b ← evalOperand s depth r | .error .failed
        .ok (compareFloats op (numberFloat a) (numberFloat b))
      | .isIn negated l r => evalIn s depth negated l r
      | .test p negated name args => evalTest s depth p negated name args
      | .bool b => .ok b
      | .string text => .ok (text != "")
      | .array items => .ok (!items.isEmpty)
      | .concat parts => (evalParts s depth parts).map fun text => !text.isEmpty
      | .call name args => do
        match ← found (applyFunction name (← evalArgs s depth args)) with
        | .bool b => .ok b
        | _ => .error .failed
      | t => do
        match ← evalNumber s depth t with
        | some n => .ok (numberFloat n != 0.0)
        | none => .ok false
    return b != e.negated

end

end TaskSynth.Template
