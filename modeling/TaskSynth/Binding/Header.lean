import TaskSynth.FileTree.Basic
import TaskSynth.Text.Blank
import TaskSynth.Text.Replace

namespace TaskSynth.Binding

structure LicenseHeader where
  content : String
  deriving DecidableEq

namespace LicenseHeader

def none : LicenseHeader := ⟨""⟩

/-- Puts the year in place of every ` YEAR`. -/
def ofText (text year : String) : LicenseHeader :=
  ⟨Text.replace text " YEAR" (" " ++ year)⟩

structure Unread where
  path : String
  cause : FileTree.Error
  deriving DecidableEq

def Unread.message (e : Unread) : String :=
  "failed to read header file " ++ e.path ++ ": " ++ e.cause.message

def load (read : String → Except FileTree.Error String) (path year : String) :
    Except Unread LicenseHeader :=
  match read path with
  | .ok text => .ok (ofText text year)
  | .error cause => .error ⟨path, cause⟩

def isEmpty (h : LicenseHeader) : Bool := h.content.toList.all Text.isBlank

/-- A blank header counts as none. -/
def text (h : LicenseHeader) : String := if h.isEmpty then "" else h.content

end LicenseHeader

def importClause (paths : List String) : String :=
  if paths.isEmpty then ""
  else "\n\nimport (" ++ String.join (paths.map fun p => "\n\t\"" ++ p ++ "\"") ++ "\n)"

/-- Licence, notice, package clause and imports, without a final line end. -/
def fileHeader (license packageName : String) (imports : List String) : String :=
  let license := if license = "" then "" else Text.trim license ++ "\n\n"
  Text.trimEnd (license ++ "// Code generated by tektasker. DO NOT EDIT.\n\npackage " ++
    packageName ++ importClause imports)

end TaskSynth.Binding
