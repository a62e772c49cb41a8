/-!
# Sets of texts

## Main definitions

* `sortedUnique`: the texts of a list in ascending order, each once

## Main results

* `mem_sortedUnique`: no text is lost and none comes in
-/

namespace CallMeter.Text

/-- A text put in its place, unless it is there. -/
def insertUnique (s : String) : List String → List String
  | [] => [s]
  | t :: rest =>
    if s < t then s :: t :: rest else if s = t then t :: rest else t :: insertUnique s rest

/-- **The texts** of a list in ascending order, each once. -/
def sortedUnique (ss : List String) : List String :=
  ss.foldr insertUnique []

theorem mem_insertUnique (s x : String) (l : List String) :
    x ∈ insertUnique s l ↔ x = s ∨ x ∈ l := by
  induction l with
  | nil => simp [insertUnique]
  | cons t rest ih =>
    rw [insertUnique]
    split
    · simp
    split
    · simp_all
    · simp only [List.mem_cons, ih]; exact or_left_comm

@[simp] theorem mem_sortedUnique (x : String) (ss : List String) :
    x ∈ sortedUnique ss ↔ x ∈ ss := by
  induction ss with
  | nil => simp [sortedUnique]
  | cons s rest ih =>
    rw [sortedUnique, List.foldr_cons, mem_insertUnique]
    simp [← ih, sortedUnique]

end CallMeter.Text
