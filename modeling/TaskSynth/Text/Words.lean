import TaskSynth.Text.Casing

/-! Words of an identifier, and the spellings made of them. A word ends at anything that is
no letter or digit, before a capital that follows a small letter, and before the last
capital of a run when a small letter follows. -/
namespace TaskSynth.Text

/-- The case of the last cased character of the word so far. -/
inductive WordCase where
  | none | lower | upper
  deriving BEq

def WordCase.after (w : WordCase) (c : Char) : WordCase :=
  if isLowercase c then .lower else if isUppercase c then .upper else w

/-- Splits a run of letters and digits; `word` is the current word, reversed. -/
def splitRun (word : List Char) (w : WordCase) : List Char → List (List Char)
  | [] => if word.isEmpty then [] else [word.reverse]
  | [c] => [(c :: word).reverse]
  | c :: next :: rest =>
    let after := w.after c
    if after == .lower && isUppercase next then
      (c :: word).reverse :: splitRun [] .none (next :: rest)
    else if w == .upper && isUppercase c && isLowercase next then
      word.reverse :: splitRun [c] .none (next :: rest)
    else splitRun (c :: word) after (next :: rest)

/-- Maximal runs of letters and digits; `run` is the current one, reversed. -/
def alphanumericRuns (run : List Char) : List Char → List (List Char)
  | [] => if run.isEmpty then [] else [run.reverse]
  | c :: rest =>
    if isAlphanumeric c then alphanumericRuns (c :: run) rest
    else if run.isEmpty then alphanumericRuns [] rest
    else run.reverse :: alphanumericRuns [] rest

def words (s : List Char) : List (List Char) :=
  (alphanumericRuns [] s).flatMap (splitRun [] .none)

/-- A capital sigma is final exactly at the end of the word. -/
def lowerWord : List Char → List Char
  | [] => []
  | [c] => if c.toNat == 0x3A3 then [Char.ofNat 0x3C2] else lowerChars c
  | c :: rest => lowerChars c ++ lowerWord rest

def capitalWord : List Char → List Char
  | [] => []
  | c :: rest => upperChars c ++ lowerWord rest

def snakeCase (s : List Char) : List Char := ['_'].intercalate ((words s).map lowerWord)

def kebabCase (s : List Char) : List Char := ['-'].intercalate ((words s).map lowerWord)

def pascalCase (s : List Char) : List Char := (words s).flatMap capitalWord

def camelCase (s : List Char) : List Char :=
  match words s with
  | [] => []
  | w :: ws => lowerWord w ++ ws.flatMap capitalWord

end TaskSynth.Text
