import TaskSynth.Text.Table.Grapheme
import TaskSynth.Text.Table.Print

namespace TaskSynth.Text

inductive ClusterClass where
  | cr | lf | control | extend | joiner | spacing | prepended | lead | vowel | tail
  | leadVowel | leadVowelTail | regional | other
  deriving BEq

def clusterClass (c : Char) : ClusterClass :=
  let n := c.toNat
  if n == 0x0D then .cr
  else if n == 0x0A then .lf
  else if 0x20 ≤ n && n < 0x7F then .other
  else if n == 0x200D then .joiner
  else if covers Table.graphemeExtend n || (0x1F3FB ≤ n && n ≤ 0x1F3FF) then .extend
  else if covers Table.clusterControl n then .control
  else if (0x1100 ≤ n && n ≤ 0x115F) || (0xA960 ≤ n && n ≤ 0xA97C) then .lead
  else if (0x1160 ≤ n && n ≤ 0x11A7) || (0xD7B0 ≤ n && n ≤ 0xD7C6) then .vowel
  else if (0x11A8 ≤ n && n ≤ 0x11FF) || (0xD7CB ≤ n && n ≤ 0xD7FB) then .tail
  else if 0xAC00 ≤ n && n ≤ 0xD7A3 then
    if (n - 0xAC00) % 28 == 0 then .leadVowel else .leadVowelTail
  else if 0x1F1E6 ≤ n && n ≤ 0x1F1FF then .regional
  else if covers Table.spacingMark n then .spacing
  else if covers Table.prepended n then .prepended
  else .other

structure ClusterState where
  last : ClusterClass
  /-- A pictograph, with nothing but extending signs after it. -/
  pictograph : Bool
  /-- The same, and a joiner after those. -/
  joined : Bool
  /-- An odd number of regional indicators ends here. -/
  oddRegional : Bool
  /-- A consonant with only extending or linking signs after it. -/
  consonant : Bool
  /-- The same, with at least one linking sign. -/
  linked : Bool

/-- The signs that link consonants. -/
def isLinker (c : Char) : Bool :=
  [0x94D, 0x9CD, 0xACD, 0xB4D, 0xC4D, 0xD4D].contains c.toNat

def ClusterState.next (s : ClusterState) (c : Char) : ClusterState :=
  let k := clusterClass c
  let ascii := c.toNat < 0x80
  let stays := k == .extend || k == .joiner
  let consonant := !ascii && covers Table.conjunctConsonant c.toNat
  { last := k
    pictograph := (!ascii && covers Table.pictographic c.toNat) || (s.pictograph && k == .extend)
    joined := s.pictograph && k == .joiner
    oddRegional := k == .regional && !s.oddRegional
    consonant := consonant || (s.consonant && stays)
    linked := !consonant && s.consonant && stays && (s.linked || isLinker c) }

def ClusterState.joins (s : ClusterState) (c : Char) : Bool :=
  match s.last, clusterClass c with
  | .cr, .lf => true
  | .cr, _ => false
  | .lf, _ => false
  | .control, _ => false
  | _, .cr => false
  | _, .lf => false
  | _, .control => false
  | _, .extend => true
  | _, .joiner => true
  | _, .spacing => true
  | .prepended, _ => true
  | .lead, .lead => true
  | .lead, .vowel => true
  | .lead, .leadVowel => true
  | .lead, .leadVowelTail => true
  | .leadVowel, .vowel => true
  | .leadVowel, .tail => true
  | .vowel, .vowel => true
  | .vowel, .tail => true
  | .leadVowelTail, .tail => true
  | .tail, .tail => true
  | .regional, .regional => s.oddRegional
  | _, _ =>
    (s.joined && covers Table.pictographic c.toNat) ||
      (s.linked && covers Table.conjunctConsonant c.toNat)

/-- The clusters of the rest of a text; `cluster` is the current one, reversed. -/
def clustersFrom (s : ClusterState) (cluster : List Char) : List Char → List (List Char)
  | [] => [cluster.reverse]
  | c :: rest =>
    if s.joins c then clustersFrom (s.next c) (c :: cluster) rest
    else cluster.reverse :: clustersFrom (s.next c) [c] rest

def clusters : List Char → List (List Char)
  | [] => []
  | c :: rest =>
    clustersFrom (ClusterState.next ⟨.other, false, false, false, false, false⟩ c) [c] rest

end TaskSynth.Text
