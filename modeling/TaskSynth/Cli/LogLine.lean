import TaskSynth.Log

namespace TaskSynth.Cli

/-- Characters that could steer a terminal do not stand in a message. -/
def messageChar (c : Char) : List Char :=
  if c == '\x1b' then "\\x1b".toList
  else if c == '\x07' then "\\x07".toList
  else if c == '\x08' then "\\x08".toList
  else if c == '\x0c' then "\\x0c".toList
  else if c == '\x7f' then "\\x7f".toList
  else if '\x80' ≤ c && c ≤ '\x9f' then ['\\', 'u', '\x7b'] ++ Text.hex c.toNat ++ ['\x7d']
  else [c]

def fieldText : Log.FieldValue → String
  | .quoted s => Text.quoted s
  | .bare s => s
  | .count n => toString n

/-- The level, the message and the fields of an event. -/
def eventText (e : Log.Event) : String :=
  e.level.name ++ " " ++ String.ofList (e.message.toList.flatMap messageChar) ++
    String.join (e.fields.map fun (name, v) => " " ++ name ++ "=" ++ fieldText v)

def eventLine (e : Log.Event) : String :=
  String.ofList ((eventText e).toList.takeWhile (· != '\n'))

def Level.isShown (debug : Bool) : Log.Level → Bool
  | .debug => debug
  | .info => true
  | .warn => true

def logLines (debug : Bool) (events : List Log.Event) : List String :=
  (events.filter fun e => Level.isShown debug e.level).map eventLine

end TaskSynth.Cli
