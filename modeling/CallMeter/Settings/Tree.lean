import CallMeter.Decimal.Layout
import CallMeter.Entries
import CallMeter.Text.Lowercase

/-!
# Setting trees

Settings before they are given their types: scalars, lists and groups of named settings. Names
are kept in lower case. A scalar converts where its text allows it.

## Main definitions

* `Setting`: a tree of settings
* `ReadFault`: why a tree cannot be had
* `Setting.overlay`: a setting laid over an earlier one
* `Setting.asText?`, `Setting.asWord?`: scalars as text and as numbers
-/

namespace CallMeter

/-- **Setting**. -/
inductive Setting
  /-- No value at all. -/
  | absent
  | text (s : String)
  | integer (n : Int)
  | real (x : Float)
  | flag (b : Bool)
  | list (items : List Setting)
  | group (entries : List (String × Setting))

/-- **Why settings cannot be had**: their text is malformed, or a setting is misplaced, under a key
that is no name or outside of any list. -/
inductive ReadFault
  | malformed
  | misplaced
  deriving DecidableEq

namespace Setting

/-- An integer of 64 bits. -/
def ofInt? (n : Int) : Option Setting :=
  if Int64.minValue.toInt ≤ n ∧ n ≤ Int64.maxValue.toInt then some (.integer n) else none

/-- The entries of a group, none for all else. -/
def entries : Option Setting → List (String × Setting)
  | some (.group es) => es
  | _ => []

/-- The items of a list, none for all else. -/
def items : Option Setting → List Setting
  | some (.list ss) => ss
  | _ => []

mutual

/-- **A setting laid over an earlier one**: the entries of a group are laid over those of the
group that stood there, all else takes the place of what stood there. -/
def overlay (old : Option Setting) : Setting → Setting
  | .group new => overlayEntries (old.getD (.group [])) new
  | s => s

/-- Entries laid over a setting, which becomes a group with the first of them. -/
def overlayEntries (old : Setting) : List (String × Setting) → Setting
  | [] => old
  | (k, s) :: r =>
    let name := Text.lowercase k
    let es := entries (some old)
    overlayEntries (.group (Entries.put name (overlay (Entries.get? name es) s) es)) r

end

/-- A scalar as text. -/
def asText? : Setting → Option String
  | .text s => some s
  | .integer n => some (toString n)
  | .real x => some (Decimal.Layout.positionalOnly.render x)
  | .flag b => some (if b then "true" else "false")
  | _ => none

/-- The number that a text stands for: the words of a switch, or digits. -/
def wordOfText? (s : String) : Option Nat :=
  let t := Text.lowercase s
  if t == "true" || t == "on" || t == "yes" then some 1
  else if t == "false" || t == "off" || t == "no" then some 0
  else (Decimal.readWord? s.toList).map UInt64.toNat

/-- The whole number nearest to a double, zero below it and past `limit` where it is infinite. -/
def wholePart (limit : Nat) (x : Float) : Nat :=
  if 0.0 < x then (if x.isFinite then Decimal.nearest x else limit + 1) else 0

/-- A scalar as a number of at most `limit`. -/
def asWord? (limit : Nat) (s : Setting) : Option Nat :=
  let n? := match s with
    | .text s => wordOfText? s
    | .integer n => if 0 ≤ n then some n.toNat else none
    | .real x => some (wholePart limit x)
    | .flag b => some (if b then 1 else 0)
    | _ => none
  n?.filter (· ≤ limit)

end Setting

end CallMeter
