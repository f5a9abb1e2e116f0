import Mathlib.Data.List.DropRight
import TaskSynth.Manifest.Command
import TaskSynth.Proofs.Binding.Encoding

/-! The name of a binary. A path has slashes alone, or it ends in a name with slashes behind it; the
name is its last segment that is not empty. The convention of Go for the base of a path, a scan over
octets by their indices, finds the same, since no octet of another character is taken for a slash. -/
namespace TaskSynth.Manifest

open Binding.Literal

/-- A path that ends in a name, whatever number of slashes follow it. -/
inductive EndsIn {α : Type} (slash : α) : List α → List α → Prop where
  | alone {name : List α} {n : Nat} :
      name ≠ [] → slash ∉ name → EndsIn slash (name ++ List.replicate n slash) name
  | below (front : List α) {name : List α} {n : Nat} : name ≠ [] → slash ∉ name →
      EndsIn slash (front ++ slash :: (name ++ List.replicate n slash)) name

/-- The parts of a path between slashes that are not empty. -/
def segments (path : String) : List String :=
  ((path.toList.splitOn '/').filter (· ≠ [])).map String.ofList

def slashes (n : Nat) : String := String.ofList (List.replicate n '/')

namespace Convention

def dropSlashes (path : List UInt8) : List UInt8 :=
  if path.getLast? = some 47 then dropSlashes path.dropLast else path
termination_by path.length
decreasing_by
  rename_i ends
  have some_left : path ≠ [] := by
    rintro rfl
    cases ends
  have positive := List.length_pos_iff.mpr some_left
  rw [List.length_dropLast]
  omega

/-- The last index below `n` at which a slash stands. -/
def lastSlash (path : List UInt8) : Nat → Option Nat
  | 0 => none
  | i + 1 => if path[i]? = some 47 then some i else lastSlash path i

def base (path : List UInt8) : List UInt8 :=
  if path = [] then [46]
  else
    let path := dropSlashes path
    let path :=
      match lastSlash path path.length with
      | some i => path.drop (i + 1)
      | none => path
    if path = [] then [47] else path

end Convention

section EndsIn

variable {α : Type} {slash : α} {path name : List α}

theorem endsIn_or_slashes [DecidableEq α] (slash : α) (path : List α) :
    (∃ name, EndsIn slash path name) ∨ ∃ n, path = List.replicate n slash := by
  -- From the front: a character that is no slash joins the name it stands before, or is one.
  induction path with
  | nil => exact .inr ⟨0, rfl⟩
  | cons c rest ih =>
    rcases ih with ⟨name, ends⟩ | ⟨n, rfl⟩
    · cases ends with
      | @alone _ n some plain =>
        by_cases cut : c = slash
        · subst cut
          exact .inl ⟨name, .below [] some plain⟩
        · exact .inl ⟨c :: name, .alone (List.cons_ne_nil c name)
            (List.not_mem_cons_of_ne_of_not_mem (Ne.symm cut) plain)⟩
      | @below front _ n some plain =>
        exact .inl ⟨name, .below (c :: front) some plain⟩
    · by_cases cut : c = slash
      · subst cut
        exact .inr ⟨n + 1, rfl⟩
      · have single : EndsIn slash ([c] ++ List.replicate n slash) [c] :=
          .alone (List.cons_ne_nil c []) (by simpa using Ne.symm cut)
        exact .inl ⟨[c], single⟩

theorem EndsIn.named (ends : EndsIn slash path name) : name ≠ [] ∧ slash ∉ name := by
  cases ends with
  | alone some plain => exact ⟨some, plain⟩
  | below _ some plain => exact ⟨some, plain⟩

theorem EndsIn.append (ends : EndsIn slash path name) (m : Nat) :
    EndsIn slash (path ++ List.replicate m slash) name := by
  cases ends with
  | alone some plain =>
    rw [List.append_assoc, ← List.replicate_add]
    exact .alone some plain
  | below _ some plain =>
    rw [List.append_assoc, List.cons_append, List.append_assoc, ← List.replicate_add]
    exact .below _ some plain

end EndsIn

section Characters

variable {path name : List Char}

/-- Backwards the slashes at the end come first, then the name, and then nothing or a slash. -/
theorem pathBase_of_reverse (before : List Char) {n : Nat} (some : name ≠ []) (plain : '/' ∉ name)
    (cut : before.takeWhile (· != '/') = [])
    (whole : path.reverse = List.replicate n '/' ++ (name.reverse ++ before)) :
    pathBase path = name := by
  have slashes : ∀ c ∈ List.replicate n '/', (c == '/') = true := fun c member =>
    beq_iff_eq.mpr (List.eq_of_mem_replicate member)
  have letters : ∀ c ∈ name.reverse, (c != '/') = true := fun c member =>
    bne_iff_ne.mpr fun same => plain (List.mem_reverse.mp (same ▸ member))
  obtain ⟨c, rest, first⟩ := List.exists_cons_of_ne_nil (mt List.reverse_eq_nil_iff.mp some)
  have letter : c ≠ '/' := bne_iff_ne.mp (letters c (first ▸ List.mem_cons_self))
  have trimmed : path.reverse.dropWhile (· == '/') = name.reverse ++ before := by
    rw [whole, List.dropWhile_append_of_pos slashes, first, List.cons_append,
      List.dropWhile_cons_of_neg (by simpa using letter)]
  have left : path ≠ [] := by
    rintro rfl
    simp [first] at whole
  unfold pathBase
  rw [if_neg (by simpa using left), trimmed]
  split
  · rename_i none
    simp [first] at none
  · rw [List.takeWhile_append_of_pos letters, cut, List.append_nil, List.reverse_reverse]

theorem pathBase_of_endsIn (ends : EndsIn '/' path name) : pathBase path = name := by
  cases ends with
  | @alone _ n some plain =>
    exact pathBase_of_reverse [] (n := n) some plain rfl (by simp)
  | @below front _ n some plain =>
    exact pathBase_of_reverse ('/' :: front.reverse) (n := n) some plain (by simp) (by simp)

theorem pathBase_replicate (n : Nat) : pathBase (List.replicate (n + 1) '/') = ['/'] := by
  have none : (List.replicate (n + 1) '/').reverse.dropWhile (· == '/') = [] :=
    List.dropWhile_eq_nil_iff.mpr fun c member => by simp_all
  rw [pathBase, if_neg (by simp), none]

theorem splitOn_replicate (n : Nat) :
    (List.replicate n '/').splitOn '/' = List.replicate (n + 1) [] := by
  induction n with
  | zero => rfl
  | succ n ih =>
    rw [List.replicate_succ, List.splitOn_cons_eq_if_modifyHead, if_pos (beq_self_eq_true '/'), ih]
    rfl

theorem splitOn_name (plain : '/' ∉ name) (n : Nat) :
    (name ++ List.replicate n '/').splitOn '/' = name :: List.replicate n [] := by
  cases n with
  | zero => simpa using List.splitOn_eq_singleton plain
  | succ n =>
    rw [List.replicate_succ, List.splitOn_append_cons_self_of_not_mem plain, splitOn_replicate]

theorem segments_replicate (n : Nat) : segments (slashes n) = [] := by
  simp [segments, slashes, splitOn_replicate]

theorem getLast?_splitOn (ends : EndsIn '/' path name) :
    ((path.splitOn '/').filter (· ≠ [])).getLast? = some name := by
  have named {n : Nat} (some : name ≠ []) (plain : '/' ∉ name) :
      ((name ++ List.replicate n '/').splitOn '/').filter (· ≠ []) = [name] := by
    simp [splitOn_name plain, some]
  cases ends with
  | alone some plain => rw [named some plain, List.getLast?_singleton]
  | below _ some plain =>
    rw [List.splitOn_append_cons_self, List.filter_append, named some plain, List.getLast?_concat]

theorem binaryName_of_endsIn {path : String} (ends : EndsIn '/' path.toList name) :
    binaryName path = if name = ['.'] then fallbackBinary else String.ofList name := by
  unfold binaryName
  rw [pathBase_of_endsIn ends]
  split
  · rw [if_pos rfl]
  · exact absurd List.mem_cons_self ends.named.2
  · rename_i other _
    rw [if_neg other]

theorem binaryName_slashes (n : Nat) : binaryName (slashes n) = fallbackBinary := by
  cases n with
  | zero => rfl
  | succ n =>
    rw [binaryName, slashes, String.toList_ofList, pathBase_replicate]
    rfl

end Characters

section Octets

variable {path name : List UInt8}

theorem utf8_replicate (n : Nat) : utf8 (List.replicate n '/') = List.replicate n 47 := by
  induction n with
  | zero => rfl
  | succ n ih =>
    rw [List.replicate_succ, List.replicate_succ, utf8_cons, ih]
    rfl

theorem endsIn_utf8 {path name : List Char} (ends : EndsIn '/' path name) :
    EndsIn 47 (utf8 path) (utf8 name) := by
  have named (some : name ≠ []) : utf8 name ≠ [] := by
    intro none
    have size := length_le_utf8 name
    rw [none, List.length_nil, Nat.le_zero] at size
    exact some (List.eq_nil_of_length_eq_zero size)
  have plain (plain : '/' ∉ name) : 47 ∉ utf8 name :=
    mt (mem_utf8_iff (d := '/') (by decide)).mp plain
  cases ends with
  | alone some plain' =>
    rw [utf8_append, utf8_replicate]
    exact .alone (named some) (plain plain')
  | below _ some plain' =>
    rw [utf8_append, utf8_cons, utf8_append, utf8_replicate]
    exact .below _ (named some) (plain plain')

namespace Convention

theorem dropSlashes_replicate (n : Nat) (plain : path.getLast? ≠ some 47) :
    dropSlashes (path ++ List.replicate n 47) = path := by
  induction n with
  | zero =>
    rw [List.replicate_zero, List.append_nil, dropSlashes, if_neg plain]
  | succ n ih =>
    rw [List.replicate_succ', ← List.append_assoc, dropSlashes, if_pos (by simp),
      List.dropLast_concat, ih]

theorem lastSlash_of_not_mem (plain : 47 ∉ path) (n : Nat) : lastSlash path n = none := by
  induction n with
  | zero => rfl
  | succ n ih =>
    rw [lastSlash, if_neg (fun here => plain (List.mem_of_getElem? here)), ih]

theorem lastSlash_append (front : List UInt8) (plain : 47 ∉ name) (n : Nat) :
    lastSlash (front ++ 47 :: name) (front.length + 1 + n) = some front.length := by
  induction n with
  | zero => simp [lastSlash]
  | succ n ih =>
    have index : (front ++ 47 :: name)[front.length + 1 + n]? = name[n]? := by
      rw [List.getElem?_append_right (by omega)]
      have rest : front.length + 1 + n - front.length = n + 1 := by omega
      rw [rest, List.getElem?_cons_succ]
    rw [← Nat.add_assoc, lastSlash, index,
      if_neg (fun here => plain (List.mem_of_getElem? here)), ih]

theorem getLast?_ne_of_not_mem (front : List UInt8) (some : name ≠ []) (plain : 47 ∉ name) :
    (front ++ name).getLast? ≠ Option.some 47 := by
  rw [List.getLast?_append_of_ne_nil front some]
  exact fun ends => plain (List.mem_of_getLast? ends)

theorem base_of_endsIn (ends : EndsIn 47 path name) : base path = name := by
  cases ends with
  | @alone _ n some plain =>
    have last : name.getLast? ≠ Option.some 47 := getLast?_ne_of_not_mem [] some plain
    have left : name ++ List.replicate n 47 ≠ [] := by simp [some]
    rw [base, if_neg left]
    simp only [dropSlashes_replicate n last, lastSlash_of_not_mem plain, if_neg some]
  | @below front _ n some plain =>
    have last : (front ++ 47 :: name).getLast? ≠ Option.some 47 := by
      have own := getLast?_ne_of_not_mem (front ++ [47]) some plain
      rwa [List.append_assoc, List.singleton_append] at own
    have left : front ++ 47 :: (name ++ List.replicate n 47) ≠ [] := by simp
    have whole : front ++ 47 :: (name ++ List.replicate n 47) =
        front ++ 47 :: name ++ List.replicate n 47 := by simp
    have size : (front ++ 47 :: name).length = front.length + 1 + name.length := by
      rw [List.length_append, List.length_cons]
      omega
    have behind : (front ++ 47 :: name).drop (front.length + 1) = name := by simp
    rw [base, if_neg left]
    simp only [whole, dropSlashes_replicate n last, size, lastSlash_append front plain, behind,
      if_neg some]

theorem base_replicate (n : Nat) : base (List.replicate (n + 1) 47) = [47] := by
  have none : dropSlashes (List.replicate (n + 1) 47) = [] := by
    have plain : ([] : List UInt8).getLast? ≠ some 47 := by simp
    simpa using dropSlashes_replicate (n + 1) plain
  rw [base, if_neg (by simp), none]
  rfl

theorem base_utf8 (path : List Char) : base (utf8 path) = utf8 (Manifest.pathBase path) := by
  rcases endsIn_or_slashes '/' path with ⟨name, ends⟩ | ⟨n, rfl⟩
  · rw [base_of_endsIn (endsIn_utf8 ends), pathBase_of_endsIn ends]
  · rw [utf8_replicate]
    cases n with
    | zero => rfl
    | succ n =>
      rw [base_replicate, pathBase_replicate]
      rfl

end Convention

end Octets

section Name

variable {path : String} {name : List Char}

theorem getLast?_segments (ends : EndsIn '/' path.toList name) :
    (segments path).getLast? = some (String.ofList name) := by
  rw [segments, List.getLast?_map, getLast?_splitOn ends, Option.map_some]

theorem endsIn_or_eq_slashes (path : String) :
    (∃ name, EndsIn '/' path.toList name) ∨ ∃ n, path = slashes n := by
  rcases endsIn_or_slashes '/' path.toList with ends | ⟨n, whole⟩
  · exact .inl ends
  · exact .inr ⟨n, by rw [slashes, ← whole, String.ofList_toList]⟩

theorem binaryName_append (path : String) (n : Nat) :
    binaryName (path ++ slashes n) = binaryName path := by
  rcases endsIn_or_eq_slashes path with ⟨name, ends⟩ | ⟨m, rfl⟩
  · have longer : EndsIn '/' (path ++ slashes n).toList name := by
      rw [String.toList_append, slashes, String.toList_ofList]
      exact ends.append n
    rw [binaryName_of_endsIn longer, binaryName_of_endsIn ends]
  · have more : slashes m ++ slashes n = slashes (m + n) := by
      rw [slashes, slashes, slashes, ← String.ofList_append, List.replicate_append_replicate]
    rw [more, binaryName_slashes, binaryName_slashes]

theorem binaryName_eq (path : String) :
    binaryName path = ((segments path).getLast?.filter (· ≠ ".")).getD fallbackBinary := by
  rcases endsIn_or_eq_slashes path with ⟨name, ends⟩ | ⟨n, rfl⟩
  · have dot : String.ofList name = "." ↔ name = ['.'] := by
      rw [← String.toList_inj, String.toList_ofList]
      rfl
    rw [binaryName_of_endsIn ends, getLast?_segments ends]
    by_cases own : name = ['.']
    · simp [own, Option.filter]
    · simp [own, dot, Option.filter]
  · rw [binaryName_slashes, segments_replicate]
    rfl

theorem binaryName_plain (path : String) :
    binaryName path ≠ "" ∧ binaryName path ≠ "." ∧ '/' ∉ (binaryName path).toList := by
  have fallback : fallbackBinary ≠ "" ∧ fallbackBinary ≠ "." ∧ '/' ∉ fallbackBinary.toList := by
    decide
  rcases endsIn_or_eq_slashes path with ⟨name, ends⟩ | ⟨n, rfl⟩
  · rw [binaryName_of_endsIn ends]
    split
    · exact fallback
    · rename_i other
      obtain ⟨some, plain⟩ := ends.named
      rw [String.toList_ofList]
      refine ⟨?_, ?_, plain⟩
      · rintro none
        exact some (by simpa using congrArg String.toList none)
      · rintro dot
        exact other (by simpa using congrArg String.toList dot)
  · rw [binaryName_slashes]
    exact fallback

end Name

/-- The name of a binary is the last segment of its import path that is not empty, unless there is
none or it is a dot; slashes behind the path make no difference. The last element that it is made
from is what the convention finds in the octets of the path. -/
theorem binaryName_decided (path : String) :
    binaryName path = ((segments path).getLast?.filter (· ≠ ".")).getD "ko-app" ∧
      binaryName path ≠ "" ∧ binaryName path ≠ "." ∧ '/' ∉ (binaryName path).toList ∧
      (∀ n, binaryName (path ++ slashes n) = binaryName path) ∧
      Text.octets (String.ofList (pathBase path.toList)) =
        Convention.base (Text.octets path) := by
  obtain ⟨some, other, plain⟩ := binaryName_plain path
  refine ⟨binaryName_eq path, some, other, plain, binaryName_append path, ?_⟩
  rw [Text.octets, String.toList_ofList]
  exact (Convention.base_utf8 path.toList).symm

/-- A dot between slashes, and a name beyond ASCII with slashes behind it. -/
example : binaryName "acme/.//" = "ko-app" ∧ binaryName "acme//größe//" = "größe" := by
  decide

end TaskSynth.Manifest
