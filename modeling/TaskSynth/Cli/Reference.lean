import TaskSynth.Marker.Registry

namespace TaskSynth.Cli

open Marker (Definition Argument)

def lines (ls : List String) : String := String.join (ls.map (· ++ "\n"))

def item (text : String) : String := "  • " ++ text

def argumentLine (a : Argument) : String :=
  item (a.name ++ " (" ++ a.type ++ (if a.optional then ", optional" else "") ++ "): " ++ a.summary)

def describe (d : Definition) : List String :=
  [d.category, d.usage, "  Target: " ++ d.target.name, "  Repeatable: " ++ toString d.repeatable,
    "", d.summary] ++
  (if d.details = "" then [] else ["", d.details]) ++
  (if d.arguments.isEmpty then [] else "" :: "Arguments" :: d.arguments.map argumentLine)

def overview : List String :=
  Marker.byCategory.flatMap fun (category, members) =>
    category :: (members.flatMap fun d => ["  " ++ d.usage, "    " ++ d.summary]) ++ [""]

end TaskSynth.Cli
