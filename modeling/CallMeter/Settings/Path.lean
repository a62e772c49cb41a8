import CallMeter.Decimal.Digits
import CallMeter.Settings.Tree

/-!
# Paths to settings

A path leads from the group of all settings to one of them, by names of groups and places of
lists: `server.port`, `server[1]`. Names are letters, digits, blanks, underscores and hyphens;
a negative place counts from the end of a list. A text that is no path is the name of a setting.

A setting put under a path makes groups and lists on its way, in place of what else stands
there. A list grows up to the place; a place in front of the list, or past the longest one, is
out of reach.

## Main definitions

* `Setting.Step`, `Setting.path`: the steps of a path and the path of a text
* `Setting.putAt`: a setting put where steps lead

## Main results

* `path_of_name`: a name leads to its entry
* `placeIn?_lt_of_neg`: a place that counts from the end is one of the list
-/

namespace CallMeter.Setting

/-- A step to a setting inside another. -/
inductive Step
  | name (k : String)
  | place (i : Int)
  deriving DecidableEq

/-- Characters of names. -/
def isNameChar (c : Char) : Bool :=
  c.isAlphanum || c == ' ' || c == '_' || c == '-'

/-- A name and what follows. -/
def readName? (cs : List Char) : Option (String × List Char) :=
  let name := cs.takeWhile isNameChar
  if name.isEmpty then none else some (String.ofList name, cs.dropWhile isNameChar)

/-- The number between the brackets of a place, blanks around it allowed. -/
def readPlace? (cs : List Char) : Option Int := do
  let isBlank := fun c : Char => c == ' ' || c == '\t'
  let inner := ((cs.dropWhile isBlank).reverse.dropWhile isBlank).reverse
  let n ← match inner with
    | '-' :: r => (Decimal.readNat? r).map fun n => -(n : Int)
    | r => (Decimal.readNat? r).map Int.ofNat
  if Int64.minValue.toInt ≤ n ∧ n ≤ Int64.maxValue.toInt then some n else none

/-- The steps of a path after its first name, with a bound on their number. -/
def readSteps? : (fuel : Nat) → List Char → Option (List Step)
  | _, [] => some []
  | 0, _ => none
  | fuel + 1, '.' :: r => do
    let (k, r) ← readName? r
    return .name k :: (← readSteps? fuel r)
  | fuel + 1, '[' :: r =>
    match r.dropWhile (· != ']') with
    | [] => none
    | _ :: rest => do
      let i ← readPlace? (r.takeWhile (· != ']'))
      return .place i :: (← readSteps? fuel rest)
  | _, _ => none

/-- **The path of a text**, with the whole text as one name where it spells no path. -/
def path (text : String) : List Step :=
  let steps? : Option (List Step) := do
    let (k, r) ← readName? text.toList
    return .name k :: (← readSteps? r.length r)
  steps?.getD [.name text]

theorem path_of_name {cs : List Char} (ne : cs ≠ []) (h : cs.all isNameChar = true) :
    path (String.ofList cs) = [.name (String.ofList cs)] := by
  have take : ∀ l : List Char, l.all isNameChar = true →
      l.takeWhile isNameChar = l ∧ l.dropWhile isNameChar = [] := by
    intro l hl
    induction l with
    | nil => simp
    | cons c r ih => simp_all
  obtain ⟨ht, hd⟩ := take cs h
  simp [path, readName?, String.toList_ofList, ht, hd, ne, readSteps?]

/-- The longest list. -/
def maxItems : Nat := 1 <<< 26

/-- The place in a list of some length that a number stands for, if it is within reach. -/
def placeIn? (length : Nat) (i : Int) : Option Nat :=
  let place := if i < 0 then length + i else i
  if 0 ≤ place ∧ place < maxItems then some place.toNat else none

theorem placeIn?_lt_of_neg {length n : Nat} {i : Int} (hi : i < 0)
    (h : placeIn? length i = some n) : n < length := by
  simp only [placeIn?, if_pos hi] at h
  split at h
  · cases h; omega
  · contradiction

/-- The items with one at a place, which the list grows up to. -/
def setItem (n : Nat) (s : Setting) (ss : List Setting) : List Setting :=
  (ss ++ List.replicate (n + 1 - ss.length) Setting.absent).set n s

/-- **A setting put where steps lead** from an earlier one, if all places are within reach. -/
def putAt (s : Setting) : List Step → Option Setting → Option Setting
  | [], old => some (overlay old s)
  | .name k :: rest, old => do
    let name := Text.lowercase k
    let es := entries old
    return .group (Entries.put name (← putAt s rest (Entries.get? name es)) es)
  | .place i :: rest, old => do
    let ss := items old
    let n ← placeIn? ss.length i
    return .list (setItem n (← putAt s rest ss[n]?) ss)

end CallMeter.Setting
