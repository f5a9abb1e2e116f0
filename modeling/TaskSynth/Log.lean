import TaskSynth.Package.Basic
import TaskSynth.Text.Quoted

/-! Events of a run. Every stage returns what it reports beside its result, so the order of
events is the order of the work. -/
namespace TaskSynth

namespace Log

inductive Level where
  | debug | info | warn
  deriving DecidableEq

def Level.name : Level → String
  | .debug => "DEBUG"
  | .info => "INFO"
  | .warn => "WARN"

/-- What a stage works on: a package, or one type or entity of it. -/
structure Context where
  generator : String
  package : String
  entity : Option String
  kind : Option Entity.Kind
  deriving DecidableEq

def Context.ofPackage (generator package : String) : Context := ⟨generator, package, none, none⟩

def Context.narrow (c : Context) (kind : Entity.Kind) (name : String) : Context :=
  { c with entity := some name, kind := some kind }

inductive Event where
  | stage (level : Level) (context : Context) (message : String)
  | supportHeader (generator package : String)
  | supportFile (generator file : String)
  | rendering (generator : String)
  | writing (generator : String) (artifacts : Nat)
  | wroteArtifact (path : String)
  | loadedConfig (path : String)
  | ignoredConfig (path : String)
  deriving DecidableEq

/-- A field of an event: text that a line quotes, text that it shows bare, or a number. -/
inductive FieldValue where
  | quoted (s : String)
  | bare (s : String)
  | count (n : Nat)

namespace Event

def level : Event → Level
  | stage level _ _ => level
  | supportHeader _ _ => .debug
  | supportFile _ _ => .info
  | rendering _ => .debug
  | writing _ _ => .info
  | wroteArtifact _ => .debug
  | loadedConfig _ => .debug
  | ignoredConfig _ => .warn

def message : Event → String
  | stage _ _ message => message
  | supportHeader _ _ => "generating header"
  | supportFile _ _ => "generating file"
  | rendering _ => "rendering"
  | writing _ _ => "writing"
  | wroteArtifact _ => "wrote artifact"
  | loadedConfig _ => "Loaded config"
  | ignoredConfig _ => "Failed to load config, using defaults"

def fields : Event → List (String × FieldValue)
  | stage _ c _ =>
    [("generator", .quoted c.generator), ("package", .bare c.package),
     ("entity", .quoted (c.entity.getD "")),
     ("kind", .quoted ((c.kind.map Entity.Kind.name).getD ""))]
  | supportHeader generator package =>
    [("generator", .quoted generator), ("package", .quoted package)]
  | supportFile generator file => [("generator", .quoted generator), ("file", .quoted file)]
  | rendering generator => [("generator", .quoted generator)]
  | writing generator artifacts =>
    [("generator", .quoted generator), ("artifacts", .count artifacts)]
  | wroteArtifact path => [("path", .bare path)]
  | loadedConfig path => [("path", .quoted path)]
  | ignoredConfig path => [("path", .quoted path)]

end Event

end Log

structure Logged (α : Type) where
  events : List Log.Event
  value : α

namespace Logged

def of {α : Type} (value : α) : Logged α := ⟨[], value⟩

def report (events : List Log.Event) : Logged Unit := ⟨events, ()⟩

def bind {α β : Type} (a : Logged α) (f : α → Logged β) : Logged β :=
  let b := f a.value
  ⟨a.events ++ b.events, b.value⟩

instance : Monad Logged where
  pure := of
  bind := bind

def map {α β : Type} (f : α → β) (a : Logged α) : Logged β := ⟨a.events, f a.value⟩

section

variable {α β : Type}

@[simp]
theorem value_of (x : α) : (of x).value = x := rfl

@[simp]
theorem value_pure (x : α) : (pure x : Logged α).value = x := rfl

@[simp]
theorem value_bind (a : Logged α) (f : α → Logged β) : (a >>= f).value = (f a.value).value := rfl

@[simp]
theorem value_map (f : α → β) (a : Logged α) : (a.map f).value = f a.value := rfl

@[simp]
theorem events_of (x : α) : (of x).events = [] := rfl

@[simp]
theorem events_pure (x : α) : (pure x : Logged α).events = [] := rfl

@[simp]
theorem events_report (es : List Log.Event) : (report es).events = es := rfl

@[simp]
theorem events_bind (a : Logged α) (f : α → Logged β) :
    (a >>= f).events = a.events ++ (f a.value).events := rfl

@[simp]
theorem events_map (f : α → β) (a : Logged α) : (a.map f).events = a.events := rfl

end

end Logged

def Log.Context.debug (c : Log.Context) (message : String) : Log.Event := .stage .debug c message

def Log.Context.info (c : Log.Context) (message : String) : Log.Event := .stage .info c message

def Log.Context.warn (c : Log.Context) (message : String) : Log.Event := .stage .warn c message

end TaskSynth
