namespace TaskSynth.FileTree

/-- A path taken from a directory. An absolute path is its own place. -/
def join (dir path : String) : String :=
  if path.toList.head? == some '/' || dir = "" || dir.toList.getLast? == some '/' then
    (if path.toList.head? == some '/' then path else dir ++ path)
  else dir ++ "/" ++ path

/-- The names of a path, and whether it starts at the root or asks for a directory at its end. -/
structure Path where
  absolute : Bool
  names : List String
  trailing : Bool
  deriving DecidableEq

/-- The pieces between slashes that are not empty. -/
def splitNames : List Char → List (List Char)
  | [] => []
  | c :: rest =>
    if c == '/' then splitNames rest
    else
      match rest with
      | [] => [[c]]
      | d :: _ =>
        if d == '/' then [c] :: splitNames rest
        else
          match splitNames rest with
          | [] => [[c]]
          | name :: names => (c :: name) :: names

def Path.ofString (s : String) : Path :=
  let cs := s.toList
  ⟨cs.head? == some '/', (splitNames cs).map String.ofList, cs.getLast? == some '/'⟩

/-- The names that lead somewhere: a dot counts only at the start of a relative path. -/
def Path.steps (p : Path) : List String :=
  match p.absolute, p.names with
  | false, "." :: rest => "." :: rest.filter (· ≠ ".")
  | _, names => names.filter (· ≠ ".")

def textOf (absolute : Bool) (names : List String) : String :=
  (if absolute then "/" else "") ++ "/".intercalate names

end TaskSynth.FileTree
