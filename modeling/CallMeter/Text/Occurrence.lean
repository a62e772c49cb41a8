/-!
# Occurrence in a text

A text occurs in another when the other can be cut into three pieces of which it is the middle
one. The empty text occurs everywhere.

## Main definitions

* `occursIn`: the test on lists of characters
* `contains`: the test on texts

## Main results

* `occursIn_iff`: the test finds exactly the middle pieces
-/

namespace CallMeter.Text

/-- The characters `needle` stand somewhere in `hay`, one after the other. -/
def occursIn (needle : List Char) : List Char → Bool
  | [] => needle.isEmpty
  | c :: r => needle.isPrefixOf (c :: r) || occursIn needle r

/-- `hay` contains `needle`. -/
def contains (hay needle : String) : Bool :=
  occursIn needle.toList hay.toList

theorem occursIn_iff (needle hay : List Char) : occursIn needle hay = true ↔ needle <:+: hay := by
  induction hay with
  | nil => simp [occursIn]
  | cons c r ih => simp [occursIn, ih, List.infix_cons_iff]

end CallMeter.Text
