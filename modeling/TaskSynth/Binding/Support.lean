import TaskSynth.Binding.Header
import TaskSynth.Log

namespace TaskSynth.Binding

structure SupportFile where
  fileName : String
  content : String
  deriving DecidableEq

def parameterFile : String := "parameter.go"
def resultFile : String := "result.go"

def supportImports : List String := ["errors", "fmt", "os", "strings"]

def resultLines : List String :=
  ["// Result allows you to simply write results back to Tekton",
   "// for use in other tasks",
   "type Result interface \x7b",
   "\t// Marshal your type in any string representation.",
   "\t// JSON is recommended but Tekton does not enforce any format",
   "\tMarshal() ([]byte, error)",
   "",
   "\t// Name is the name of your Result as it appears in your Tekton",
   "\t// Task manifest",
   "\tName() string",
   "\x7d",
   "",
   "// Write the Result back to the filesystem for Tekton to consume it",
   "func Write(r Result) error \x7b",
   "\tenvVarName := \"RESULT_\" + strings.ToUpper(r.Name()) + \"_PATH\"",
   "",
   "\tresultPath, ok := os.LookupEnv(envVarName)",
   "\tif !ok \x7b",
   "\t\treturn errors.New(fmt.Sprintf(\"result %s path could not be loaded (%s is missing)\", " ++
     "r.Name(), envVarName))",
   "\t\x7d",
   "",
   "\tresultValue, err := r.Marshal()",
   "\tif err != nil \x7b",
   "\t\treturn err",
   "\t\x7d",
   "",
   "\treturn os.WriteFile(resultPath, resultValue, 0666)",
   "\x7d",
   "",
   "// MustWrite is like Write but will panic if it fails",
   "func MustWrite(r Result) \x7b",
   "\tif err := Write(r); err != nil \x7b",
   "\t\tpanic(err.Error())",
   "\t\x7d",
   "\x7d"]

def parameterLines : List String :=
  ["// Parameter is capable of unmarshaling a specific Tekton parameter",
   "type Parameter interface \x7b",
   "\t// Unmarshal must result in the receiver being populated",
   "\t// from the passed bytes buffer",
   "\tUnmarshal([]byte) error",
   "",
   "\t// Name is the name of the parameter as it appears in your Task",
   "\t// manifest",
   "\tName() string",
   "\x7d",
   "",
   "// Read a parameter from environment variable or returns an error",
   "func Read(v Parameter) error \x7b",
   "\tenvVarName := \"PARAM_\" + strings.ToUpper(v.Name()) + \"_VALUE\"",
   "",
   "\tenvVarValue, ok := os.LookupEnv(envVarName)",
   "\tif !ok \x7b",
   "\t\treturn errors.New(fmt.Sprintf(\"parameter %s is not in environment (%s is missing)\", " ++
     "v.Name(), envVarName))",
   "\t\x7d",
   "",
   "\treturn v.Unmarshal([]byte(envVarValue))",
   "\x7d",
   "",
   "// MustRead is like Read but will panic if it fails",
   "func MustRead(v Parameter) \x7b",
   "\tif err := Read(v); err != nil \x7b",
   "\t\tpanic(err.Error())",
   "\t\x7d",
   "\x7d"]

/-- The name under which support files are generated. -/
def supportGenerator : String := "go-internal"

def supportFiles (packageName : String) (header : LicenseHeader) : Logged (List SupportFile) :=
  let opening := fileHeader header.text packageName supportImports
  let file (name : String) (lines : List String) : SupportFile :=
    ⟨name, opening ++ "\n\n" ++ "\n".intercalate lines ++ "\n"⟩
  ⟨[.supportHeader supportGenerator packageName, .supportFile supportGenerator resultFile,
    .supportFile supportGenerator parameterFile],
   [file resultFile resultLines, file parameterFile parameterLines]⟩

end TaskSynth.Binding
