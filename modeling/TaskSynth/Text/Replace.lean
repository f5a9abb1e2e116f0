namespace TaskSynth.Text

/-- The pieces between separators: one more than there are separators. -/
def splitAtChar (sep : Char) : List Char → List (List Char)
  | [] => [[]]
  | c :: rest =>
    match splitAtChar sep rest with
    | [] => [[c]]
    | piece :: pieces => if c = sep then [] :: piece :: pieces else (c :: piece) :: pieces

/-- Replaces from the left what starts with `pattern`; `skip` characters belong to an occurrence
that has been replaced already. -/
def replaceFrom (pattern image : List Char) : Nat → List Char → List Char
  | _, [] => []
  | skip + 1, _ :: rest => replaceFrom pattern image skip rest
  | 0, c :: rest =>
    if pattern.isPrefixOf (c :: rest) then
      image ++ replaceFrom pattern image (pattern.length - 1) rest
    else c :: replaceFrom pattern image 0 rest

/-- Replaces every occurrence; the empty pattern occurs around every character. -/
def replaceAll (pattern image s : List Char) : List Char :=
  if pattern.isEmpty then image ++ s.flatMap (fun c => c :: image)
  else replaceFrom pattern image 0 s

def replace (s pattern image : String) : String :=
  String.ofList (replaceAll pattern.toList image.toList s.toList)

/-- The pieces between occurrences of a pattern that is not empty; `piece` is reversed. -/
def splitFrom (pattern : List Char) (piece : List Char) : Nat → List Char → List (List Char)
  | _, [] => [piece.reverse]
  | skip + 1, _ :: rest => splitFrom pattern piece skip rest
  | 0, c :: rest =>
    if pattern.isPrefixOf (c :: rest) then
      piece.reverse :: splitFrom pattern [] (pattern.length - 1) rest
    else splitFrom pattern (c :: piece) 0 rest

/-- The pieces between occurrences of a pattern; the empty one separates all characters and
both ends. -/
def splitOn (pattern s : List Char) : List (List Char) :=
  if pattern.isEmpty then [] :: (s.map fun c => [c]) ++ [[]] else splitFrom pattern [] 0 s

end TaskSynth.Text
