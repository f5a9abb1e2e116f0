import TaskSynth.Manifest.Command
import TaskSynth.Template.Body
import TaskSynth.Template.Eval

/-! Templates as a whole: reading one, and rendering it with a context. They are a language for step
commands, with the filters, tests and functions that are named in `applyFilter`, `applyTest` and
`applyFunction`. -/
namespace TaskSynth.Template

inductive Fault where
  | malformed
  | missingParent (name : String)
  | extendsItself
  | missingImport (name : String)
  deriving DecidableEq

def label : String := "step_command"

def Fault.message : Fault → String
  | malformed => "Failed to parse '" ++ label ++ "'"
  | missingParent name =>
    "Template '" ++ label ++ "' is inheriting from '" ++ name ++
      "', which doesn't exist or isn't loaded."
  | extendsItself =>
    "Circular extend detected for template '" ++ label ++ "'. Inheritance chain: `[\"" ++ label ++
      "\"]`"
  | missingImport name =>
    "Template `" ++ label ++ "` loads macros from `" ++ name ++ "` that isn't present in Tera"

end Template

/-- A template, the blocks that it defines by name, and a bound on the levels of its nesting. -/
structure Template where
  nodes : List Template.Node
  blocks : List (String × List Template.Node)
  depth : Nat

namespace Template

open Json (Value)

/-- The blocks of a template and those nested in blocks; `none` if one is defined twice. -/
def findBlocks (found : List (String × List Node)) : Nat → List Node →
    Option (List (String × List Node))
  | 0, _ => some found
  | _, [] => some found
  | steps + 1, .block name body :: rest =>
    if (found.lookup name).isSome then none
    else do
      let found ← findBlocks (found ++ [(name, body)]) steps body
      findBlocks found steps rest
  | steps + 1, _ :: rest => findBlocks found steps rest

def macroNames (nodes : List Node) : List String :=
  nodes.filterMap fun
    | .macroDefinition name => some name
    | _ => none

def areDistinct (names : List String) : Bool := names.eraseDups.length == names.length

/-- Rules take at most a few steps for every character. -/
def stepsFor (text : List Char) : Nat := 24 * text.length + 64

def parse (text : String) : Except Fault Template :=
  let cs := text.toList
  let steps := stepsFor cs
  let (preamble, rest) := preamble cs
  let (found, rest) := pieces ⟨false, true, true⟩ [] steps rest
  let nodes := settle false false found
  if !rest.isEmpty || !areDistinct (macroNames nodes) then .error .malformed
  else
    match findBlocks [] steps nodes with
    | none => .error .malformed
    | some blocks =>
      match preamble.parent, preamble.imports with
      | some parent, _ =>
        if parent = label then .error .extendsItself else .error (.missingParent parent)
      | none, file :: _ => .error (.missingImport file)
      | none, [] => .ok ⟨nodes, blocks, steps⟩

inductive Flow where
  | onward | stop | skip
  deriving DecidableEq

structure Progress where
  scope : Scope
  text : List Char
  flow : Flow

def Progress.empty (s : Scope) : Progress := ⟨s, [], .onward⟩

/-- What a loop binds its name to, one after another. -/
def turns? (keyed : Bool) : Value → Option (List Value)
  | .array items => if keyed then none else some items
  | .string s => if keyed then none else some ((Text.clusters s.toList).map ofChars)
  | _ => none

/-- Loops run over paths, calls and array literals only. -/
def isContainer : Term → Bool
  | .path _ => true
  | .call .. => true
  | .array _ => true
  | _ => false

/-- Renders the nodes of a body until one of them leaves it. -/
def renderNodes (one : Scope → Node → Result Progress) : Scope → List Node → Result Progress
  | s, [] => .ok (.empty s)
  | s, node :: rest => do
    let p ← one s node
    if p.flow ≠ .onward then return p
    else
      let q ← renderNodes one p.scope rest
      return { q with text := p.text ++ q.text }

def renderTurns (body : Scope → Result Progress) (name : String) (count : Nat) :
    Scope → Nat → List Value → Result Progress
  | s, _, [] => .ok (.empty s)
  | s, index, v :: rest => do
    let p ← body (s.push ⟨name, v, index, count⟩)
    let outer := p.scope.pop
    if p.flow = .stop then return ⟨outer, p.text, .onward⟩
    else
      let q ← renderTurns body name count outer (index + 1) rest
      return { q with text := p.text ++ q.text }

/-- The body of the first condition that holds. -/
def choose (s : Scope) (depth : Nat) (otherwise : List Node) :
    List (Expr × List Node) → Result (List Node)
  | [] => .ok otherwise
  | (condition, body) :: rest => do
    if ← evalBool s depth condition then return body else choose s depth otherwise rest

/-- Renders a node. The bound is on levels of nesting, so a loop may take any number of turns. -/
def renderNode (blocks : List (String × List Node)) : Nat → Scope → Node → Result Progress
  | 0, _, _ => .error .tooDeep
  | depth + 1, s, node =>
    let render := renderNodes (renderNode blocks depth)
    match node with
    | .text text => .ok ⟨s, text, .onward⟩
    | .output e => do return ⟨s, textOf (← eval s depth e), .onward⟩
    | .assign everywhere name e => do return .empty (s.set everywhere name (← eval s depth e))
    | .filtered (name, args) body => do
      let p ← render s body
      if name = "safe" then return p
      else
        let v ← found (applyFilter name (← evalArgs p.scope depth args) (ofChars p.text))
        return { p with text := textOf v }
    | .choice branches otherwise => do render s (← choose s depth otherwise branches)
    | .loop key name container body whenEmpty => do
      if !isContainer container.term then .error .failed
      else
        let values ← found (turns? key.isSome (← eval s depth container))
        if values.isEmpty then render s whenEmpty
        else renderTurns (fun s => render s body) name values.length s 0 values
    | .stop => .ok ⟨s, [], .stop⟩
    | .skip => .ok ⟨s, [], .skip⟩
    | .block name body => render s ((blocks.lookup name).getD body)
    | .embed _ mayMiss => if mayMiss then .ok (.empty s) else .error .failed
    | .macroDefinition _ => .error .failed

def render (t : Template) (context : List (String × String)) : Result String := do
  let p ← renderNodes (renderNode t.blocks t.depth) (.ofContext context) t.nodes
  return String.ofList p.text

/-- The message of a template that could not be rendered. -/
def Halt.message : Halt → String
  | failed => "Failed to render '" ++ label ++ "'"
  | tooDeep => "'" ++ label ++ "' is nested too deeply"

/-- The language of these templates. It has no clock and no random numbers. -/
def engine : Manifest.Engine where
  read text :=
    match parse text with
    | .ok t => .ok ⟨fun _ context => (t.render context).mapError Halt.message⟩
    | .error fault => .error fault.message

end Template

end TaskSynth
