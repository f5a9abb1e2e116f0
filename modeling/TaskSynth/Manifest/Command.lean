import TaskSynth.Text.Replace

/-! The command of the step: a template that is rendered for a package, and whose text is cut at
every single space. The name of the binary is the last element of the import path. -/
namespace TaskSynth.Manifest

/-- The name of a binary whose import path has no usable last element. -/
def fallbackBinary : String := "ko-app"

/-- The last element of a slash-separated path: `.` for the empty path, `/` for slashes alone. -/
def pathBase (path : List Char) : List Char :=
  if path.isEmpty then ['.']
  else match path.reverse.dropWhile (· == '/') with
    | [] => ['/']
    | trimmed => (trimmed.takeWhile (· != '/')).reverse

/-- The name of the binary built from an import path. -/
def binaryName (importPath : String) : String :=
  match pathBase importPath.toList with
  | ['.'] => fallbackBinary
  | ['/'] => fallbackBinary
  | base => String.ofList base

/-- The arguments of a command text; neighbouring spaces leave an empty argument between them. -/
def arguments (text : String) : List String :=
  (Text.splitAtChar ' ' text.toList).map String.ofList

/-- The command when none is given: where the binary of the package lies in its image. -/
def defaultCommand : String := "/ko-app/\x7b\x7b ko_app_name \x7d\x7d"

/-- The names that a template can use, with what they stand for. -/
abbrev Context := List (String × String)

/-- A command that has been read: the text that it comes to, or why it comes to none. A template may
ask for the time or for random numbers, so this hangs on how often it has been rendered before. -/
structure Command where
  rendered : Nat → Context → Except String String

/-- A template language. The program takes one as it is and relies on nothing in it. -/
structure Engine where
  read : String → Except String Command

inductive CommandError where
  | invalid (text cause : String)
  | notRendered (cause : String)
  deriving DecidableEq

def CommandError.message : CommandError → String
  | invalid text cause => "invalid step command template '" ++ text ++ "': " ++ cause
  | notRendered cause => "failed to render step command: " ++ cause

def Engine.parse (engine : Engine) (text : String) : Except CommandError Command :=
  (engine.read text).mapError (.invalid text)

namespace Command

def context (packageName importPath : String) : Context :=
  [("pkg_name", packageName), ("import_path", importPath),
   ("ko_app_name", binaryName importPath)]

def render (c : Command) (packageName importPath : String) : Except CommandError String :=
  (c.rendered 0 (context packageName importPath)).mapError .notRendered

def arguments (c : Command) (packageName importPath : String) :
    Except CommandError (List String) :=
  (c.render packageName importPath).map Manifest.arguments

def next (c : Command) : Command := ⟨fun earlier => c.rendered (earlier + 1)⟩

end Command

end TaskSynth.Manifest
