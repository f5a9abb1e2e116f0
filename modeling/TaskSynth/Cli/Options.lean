/-! The command line. A command is found by its words; what stands before and after them are
options and, for the last word, arguments. An option that every command takes may stand anywhere,
and counts where it stands deepest. -/
namespace TaskSynth.Cli

inductive Product where
  | manifests (outputDir template : Option String) (skipKustomization : Bool)
  | bindings (dir packageName headerFile year : Option String)
  deriving DecidableEq

def Product.headerFile? : Product → Option String
  | manifests .. => none
  | bindings _ _ headerFile _ => headerFile

inductive Request where
  | generate (p : Product)
  | markers (name : Option String) (target : String)
  deriving DecidableEq

structure Options where
  debug : Bool
  dryRun : Bool
  inputs : List String
  config : Option String
  request : Request
  deriving DecidableEq

inductive Refusal where
  | usage
  | help
  | version
  deriving DecidableEq

def versionLine : String := "tektasker 0.2.0\n"

def usage : String :=
  "Usage: tektasker [--debug] [--dry-run] [-i SNAPSHOT]... [--config FILE] COMMAND\n" ++
  "  generate manifest [OUTPUT_DIR] [--command TEMPLATE] [--skip-kustomization]\n" ++
  "  generate go [DIR] [PKG_NAME] [--header-file FILE] [--year YEAR]\n" ++
  "  markers [NAME] [TARGET]\n"

namespace Options

/-- An option without a value, or with one that is a text or a path; a path is never empty. -/
inductive Kind where
  | flag | text | path
  deriving DecidableEq

structure Spec where
  name : String
  kind : Kind
  repeatable : Bool

def shared : List Spec :=
  [⟨"debug", .flag, false⟩, ⟨"dry-run", .flag, false⟩, ⟨"input", .path, true⟩,
   ⟨"config", .path, false⟩]

structure Level where
  isTop : Bool
  options : List Spec
  arguments : List Kind
  words : List String

structure Given where
  options : List (String × String)
  arguments : List String

namespace Given

def empty : Given := ⟨[], []⟩

def has (g : Given) (name : String) : Bool := (g.options.lookup name).isSome

def all (g : Given) (name : String) : List String :=
  (g.options.filter fun e => e.1 == name).map Prod.snd

def get? (g : Given) (name : String) : Option String := g.options.lookup name

end Given

def addOption (s : Spec) (value : String) (g : Given) : Except Refusal Given :=
  if (s.kind = .path && value = "") || (!s.repeatable && g.has s.name) then .error .usage
  else .ok { g with options := g.options ++ [(s.name, value)] }

def addArgument (l : Level) (value : String) (g : Given) : Except Refusal Given :=
  match l.arguments[g.arguments.length]? with
  | some kind =>
    if kind = .path && value = "" then .error .usage
    else .ok { g with arguments := g.arguments ++ [value] }
  | none => .error .usage

def isOption (word : String) : Bool :=
  match word.toList with
  | '-' :: _ :: _ => true
  | _ => false

/-- A long option: its name, and its value after an equals sign. -/
def splitLong (s : List Char) : String × Option String :=
  match s.dropWhile (· != '=') with
  | [] => (String.ofList s, none)
  | _ :: value => (String.ofList (s.takeWhile (· != '=')), some (String.ofList value))

/-- The value of a short option that is attached to it. -/
def attached : List Char → Option String
  | [] => none
  | '=' :: value => some (String.ofList value)
  | value => some (String.ofList value)

inductive Word where
  | option (s : Spec) (value : Option String)
  | refusal (r : Refusal)
  | argument

def classify (l : Level) (word : String) : Word :=
  match word.toList with
  | '-' :: '-' :: long =>
    match splitLong long with
    | ("help", none) => .refusal .help
    | ("version", none) => .refusal (if l.isTop then .version else .usage)
    | (name, value) =>
      match (shared ++ l.options).find? fun s => s.name == name with
      | some s => if s.kind = .flag && value.isSome then .refusal .usage else .option s value
      | none => .refusal .usage
  | '-' :: 'i' :: rest => .option ⟨"input", .path, true⟩ (attached rest)
  | '-' :: 'h' :: _ => .refusal .help
  | '-' :: 'V' :: _ => .refusal (if l.isTop then .version else .usage)
  | '-' :: _ :: _ => .refusal .usage
  | _ => .argument

/-- Reads the words of a level up to the word that leads to the next, which is the answer with
what follows it. -/
def readLevel (l : Level) (g : Given) :
    List String → Except Refusal (Given × Option (String × List String))
  | [] => .ok (g, none)
  | "--" :: rest => do .ok (← rest.foldlM (fun g word => addArgument l word g) g, none)
  | word :: rest =>
    match classify l word with
    | .refusal r => .error r
    | .option s (some value) => do readLevel l (← addOption s value g) rest
    | .option s none =>
      if s.kind = .flag then do readLevel l (← addOption s "" g) rest
      else
        match rest with
        | value :: rest =>
          if isOption value then .error .usage
          else do readLevel l (← addOption s value g) rest
        | [] => .error .usage
    | .argument =>
      if l.words.elem word then .ok (g, some (word, rest))
      else do readLevel l (← addArgument l word g) rest

def top : Level := ⟨true, [], [], ["generate", "gen", "g", "markers", "help"]⟩

def generate : Level := ⟨false, [], [], ["manifest", "go", "help"]⟩

def markers : Level := ⟨false, [], [.text, .text], []⟩

def manifest : Level :=
  ⟨false, [⟨"command", .text, false⟩, ⟨"skip-kustomization", .flag, false⟩], [.path], []⟩

def go : Level :=
  ⟨false, [⟨"header-file", .path, false⟩, ⟨"year", .text, false⟩], [.path, .text], []⟩

/-- The values of a shared option at the deepest level that has it; `levels` are given from the
top down. -/
def deepest (levels : List Given) (name : String) : List String :=
  ((levels.reverse.map fun g => g.all name).find? fun values => !values.isEmpty).getD []

def assemble (levels : List Given) (r : Request) : Options where
  debug := !(deepest levels "debug").isEmpty
  dryRun := !(deepest levels "dry-run").isEmpty
  inputs := deepest levels "input"
  config := (deepest levels "config").head?
  request := r

/-- Reads the words after the last word of a command. -/
def readLast (l : Level) (words : List String) : Except Refusal Given := do
  .ok (← readLevel l .empty words).1

def parseGenerate (above : List Given) (words : List String) : Except Refusal Options := do
  match ← readLevel generate .empty words with
  | (own, some ("manifest", rest)) =>
    let g ← readLast manifest rest
    .ok (assemble (above ++ [own, g])
      (.generate (.manifests g.arguments[0]? (g.get? "command") (g.has "skip-kustomization"))))
  | (own, some ("go", rest)) =>
    let g ← readLast go rest
    .ok (assemble (above ++ [own, g])
      (.generate (.bindings g.arguments[0]? g.arguments[1]? (g.get? "header-file")
        (g.get? "year"))))
  | (_, some ("help", _)) => .error .help
  | _ => .error .usage

/-- Reads a command line without the name of the program. -/
def parse (words : List String) : Except Refusal Options := do
  match ← readLevel top .empty words with
  | (own, some ("markers", rest)) =>
    let g ← readLast markers rest
    .ok (assemble [own, g] (.markers g.arguments[0]? (g.arguments[1]?.getD "type")))
  | (_, some ("help", _)) => .error .help
  | (own, some (_, rest)) => parseGenerate [own] rest
  | _ => .error .usage

end Options

end TaskSynth.Cli
