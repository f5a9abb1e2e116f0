import TaskSynth.Binding.Header
import TaskSynth.Binding.Index

namespace TaskSynth.Binding

/-- The name of the generated file in each package directory. -/
def bindingsFile : String := "zz_generated.tektasker.go"

def jsonImport : String := "encoding/json"

/-- The method sections, by method and then in the order recorded. -/
def Index.sections (i : Index) : List String :=
  Method.all.flatMap fun m => (i.get m).map m.render

def Index.source (i : Index) (packageName : String) (header : LicenseHeader) : String :=
  let imports := if i.usesJson then [jsonImport] else []
  "\n\n".intercalate (fileHeader header.text packageName imports :: i.sections) ++ "\n"

/-- The Go source of a package; one without a task marker has none. -/
def synthesize (p : Package) (header : LicenseHeader) : Logged (Option String) :=
  let context := Log.Context.ofPackage generator p.name
  match p.task with
  | none =>
    ⟨[context.debug "starting collecting", context.info "skipping non-task package"], none⟩
  | some _ => do
    .report [context.debug "starting collecting"]
    let index ← Index.ofPackage p
    return some (index.source p.name header)

end TaskSynth.Binding
