/-!
# Cutting a text at a character

## Main definitions

* `splitOn`: the pieces between the separators
* `cut`: the parts before and after the first separator

## Main results

* `intercalate_splitOn`: the pieces joined by the separator are the text
* `splitOn_append_cons`, `cut_append_cons`: the first separator ends the first piece
-/

namespace CallMeter.Text

/-- The pieces of a text between the separators, empty pieces included. -/
def splitOn (sep : Char) : List Char → List (List Char)
  | [] => [[]]
  | c :: r =>
    if c == sep then [] :: splitOn sep r
    else
      match splitOn sep r with
      | [] => [[c]]
      | p :: ps => (c :: p) :: ps

/-- The text before the first separator, and the text after it if there is one. -/
def cut (sep : Char) (cs : List Char) : List Char × Option (List Char) :=
  match cs.dropWhile (· != sep) with
  | [] => (cs, none)
  | _ :: r => (cs.takeWhile (· != sep), some r)

theorem splitOn_ne_nil (sep : Char) (cs : List Char) : splitOn sep cs ≠ [] := by
  cases cs with
  | nil => simp [splitOn]
  | cons c r => rw [splitOn]; repeat' split <;> simp

theorem intercalate_splitOn (sep : Char) (cs : List Char) :
    [sep].intercalate (splitOn sep cs) = cs := by
  induction cs with
  | nil => rfl
  | cons c r ih =>
    by_cases h : c = sep <;> cases hs : splitOn sep r with
    | nil => exact absurd hs (splitOn_ne_nil sep r)
    | cons p ps => cases ps <;> simp_all [splitOn, List.intercalate]

section

variable {sep : Char} {cs : List Char} (h : sep ∉ cs)
include h

theorem splitOn_of_not_mem : splitOn sep cs = [cs] := by
  induction cs with
  | nil => rfl
  | cons c r ih =>
    have other : (c == sep) = false := by simpa using (List.ne_of_not_mem_cons h).symm
    rw [splitOn, other, ih (List.not_mem_of_not_mem_cons h)]
    rfl

theorem splitOn_append_cons (r : List Char) :
    splitOn sep (cs ++ sep :: r) = cs :: splitOn sep r := by
  induction cs with
  | nil => simp [splitOn]
  | cons c cs ih =>
    have other : (c == sep) = false := by simpa using (List.ne_of_not_mem_cons h).symm
    rw [List.cons_append, splitOn, other, ih (List.not_mem_of_not_mem_cons h)]
    rfl

theorem bne_of_not_mem : ∀ c ∈ cs, (c != sep) = true := by
  intro c hc
  rw [bne_iff_ne]
  rintro rfl
  exact h hc

theorem cut_of_not_mem : cut sep cs = (cs, none) := by
  have rest : cs.dropWhile (· != sep) = [] := by
    rw [← List.append_nil cs, List.dropWhile_append_of_pos (bne_of_not_mem h)]
    rfl
  rw [cut, rest]

theorem cut_append_cons (r : List Char) : cut sep (cs ++ sep :: r) = (cs, some r) := by
  have rest : (cs ++ sep :: r).dropWhile (· != sep) = sep :: r := by
    rw [List.dropWhile_append_of_pos (bne_of_not_mem h), List.dropWhile_cons_of_neg (by simp)]
  have front : (cs ++ sep :: r).takeWhile (· != sep) = cs := by
    rw [List.takeWhile_append_of_pos (bne_of_not_mem h), List.takeWhile_cons_of_neg (by simp),
      List.append_nil]
  rw [cut, rest, front]

end

end CallMeter.Text
