import TaskSynth.Json.Pretty
import TaskSynth.Decimal.Reading
import TaskSynth.Template.Expr
import TaskSynth.Text.Replace

namespace TaskSynth.Template

open Json (Value)

structure Turn where
  name : String
  value : Value
  index : Nat
  count : Nat

structure Frame where
  assigned : List (String × Value)
  turn : Option Turn

/-- Frames of loops, the innermost first, then the frame of the template, then its context. -/
structure Scope where
  loops : List Frame
  outer : Frame
  context : List (String × String)

def Scope.ofContext (context : List (String × String)) : Scope := ⟨[], ⟨[], none⟩, context⟩

/-- An array index: digits without a leading zero. -/
def arrayIndex? (key : String) : Option Nat :=
  match key.toList with
  | '0' :: _ :: _ => none
  | ds => Decimal.natural? 10 ds

def descend (v : Value) : List String → Option Value
  | [] => some v
  | key :: rest =>
    match v with
    | .array items => do
      let item ← items[← arrayIndex? key]?
      descend item rest
    | .object entries => do
      let item ← entries.lookup key
      descend item rest
    | _ => none

def natural (n : Nat) : Value := .number (.integer n)

def Turn.find? (t : Turn) (root : String) (keys : List String) : Option Value :=
  match root, keys with
  | "loop", ["index"] => some (natural (t.index + 1))
  | "loop", ["index0"] => some (natural t.index)
  | "loop", ["first"] => some (.bool (t.index == 0))
  | "loop", ["last"] => some (.bool (t.index + 1 == t.count))
  | _, _ => if root = t.name then descend t.value keys else none

def Frame.find? (f : Frame) (root : String) (keys : List String) : Option Value :=
  match (f.assigned.lookup root).bind fun v => descend v keys with
  | some v => some v
  | none => f.turn.bind fun t => t.find? root keys

/-- The first frame in which the whole path can be followed decides. -/
def findInFrames (root : String) (keys : List String) : List Frame → Option Value
  | [] => none
  | f :: rest =>
    match f.find? root keys with
    | some v => some v
    | none => findInFrames root keys rest

namespace Scope

def frames (s : Scope) : List Frame := s.loops ++ [s.outer]

def find? (s : Scope) (root : String) (keys : List String) : Option Value :=
  match findInFrames root keys s.frames with
  | some v => some v
  | none => (s.context.lookup root).bind fun text => descend (.string text) keys

/-- The keys that a text names: one that holds points names several. -/
def splitKey (key : String) : List String :=
  (Text.splitAtChar '.' key.toList).map String.ofList

/-- The root of a path and the keys after it, the last one first. -/
def keysOf (s : Scope) : Path → Option (String × List String)
  | .root name => some (name, [])
  | .member p name => do
    let (root, keys) ← keysOf s p
    some (root, name :: keys)
  | .index p key => do
    let (root, keys) ← keysOf s p
    some (root, (splitKey key).reverse ++ keys)
  | .through p q => do
    let (root, keys) ← keysOf s p
    let (inner, innerKeys) ← keysOf s q
    match ← s.find? inner innerKeys.reverse with
    | .string key => some (root, (splitKey key).reverse ++ keys)
    | .number n => some (root, String.ofList n.chars :: keys)
    | _ => none

def assign (entries : List (String × Value)) (name : String) (v : Value) :
    List (String × Value) :=
  (name, v) :: entries.filter fun e => e.1 != name

/-- Assigns in the innermost frame, or in the frame of the template. -/
def set (s : Scope) (everywhere : Bool) (name : String) (v : Value) : Scope :=
  match everywhere, s.loops with
  | false, f :: rest => { s with loops := { f with assigned := assign f.assigned name v } :: rest }
  | _, _ => { s with outer := { s.outer with assigned := assign s.outer.assigned name v } }

/-- Starts a turn of the innermost loop: what the last one assigned is gone. -/
def push (s : Scope) (t : Turn) : Scope := { s with loops := ⟨[], some t⟩ :: s.loops }

def pop (s : Scope) : Scope := { s with loops := s.loops.tail }

def visible (f : Frame) : List (String × Value) :=
  match f.turn with
  | some t => (t.name, t.value) :: f.assigned.filter fun e => e.1 != t.name
  | none => f.assigned

/-- Everything that can be named, by name; what an outer frame holds hides the inner. -/
def dump (s : Scope) : Value :=
  let context := s.context.map fun (name, text) => (name, Value.string text)
  let shown := s.frames.foldl
    (fun entries f => (visible f).foldl (fun es (name, v) => assign es name v) entries) []
  let all := shown.foldl (fun es (name, v) => assign es name v) context
  .object (all.mergeSort fun a b => a.1 ≤ b.1)

/-- The name under which everything is shown as text. -/
def dumpName : String := "__tera_context"

def value? (s : Scope) (p : Path) : Option Value :=
  if p = .root dumpName then some (.string s.dump.pretty)
  else do
    let (root, keys) ← s.keysOf p
    s.find? root keys.reverse

end Scope

end TaskSynth.Template
