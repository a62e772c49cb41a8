/-!
# Blank text

White space is the Unicode property `White_Space`: the ASCII blanks from tab to carriage
return and the space, next line, no-break space, and the spaces and separators of the general
punctuation and ideographic blocks. Trimming takes it off both ends of a text; a text is blank
when it holds nothing else.

## Main definitions

* `isSpace`, `isBlank`: white space characters and texts
* `trim`: a text without the white space at its ends

## Main results

* `isSpace_of_isWhitespace`: ASCII white space is white space
* `trimChars_eq_nil_iff`: only blank texts trim to nothing
* `trimChars_append`: trimming takes off the white space around a text
-/

namespace CallMeter.Text

/-- **White space**: a character with the Unicode property `White_Space`. -/
def isSpace (c : Char) : Bool :=
  let n := c.toNat
  (0x09 ≤ n && n ≤ 0x0D) || n == 0x20 || n == 0x85 || n == 0xA0 || n == 0x1680 ||
    (0x2000 ≤ n && n ≤ 0x200A) || n == 0x2028 || n == 0x2029 || n == 0x202F || n == 0x205F ||
    n == 0x3000

/-- A text that holds white space only. -/
def isBlank (s : String) : Bool :=
  s.toList.all isSpace

/-- The characters of a text without the white space at both ends. -/
def trimChars (cs : List Char) : List Char :=
  ((cs.dropWhile isSpace).reverse.dropWhile isSpace).reverse

/-- A text without the white space at both ends. -/
def trim (s : String) : String :=
  String.ofList (trimChars s.toList)

theorem isSpace_of_isWhitespace {c : Char} (h : c.isWhitespace = true) : isSpace c = true := by
  simp only [Char.isWhitespace, Bool.or_eq_true, decide_eq_true_eq] at h
  rcases h with ((rfl | rfl) | rfl) | rfl <;> rfl

theorem trimChars_eq_nil_iff (cs : List Char) : trimChars cs = [] ↔ cs.all isSpace = true := by
  have drop : ∀ l : List Char, l.dropWhile isSpace = [] ↔ l.all isSpace = true := by
    intro l
    induction l with
    | nil => simp
    | cons c r ih => by_cases h : isSpace c <;> simp_all
  have drop_head : ∀ l : List Char, (l.dropWhile isSpace).all isSpace = l.all isSpace := by
    intro l
    induction l with
    | nil => rfl
    | cons c r ih => by_cases h : isSpace c <;> simp_all
  rw [trimChars, List.reverse_eq_nil_iff, drop, List.all_reverse, drop_head]

/-- **Trimming** takes off white space in front and behind, and nothing else. -/
theorem trimChars_append {front cs back : List Char} (hf : ∀ c ∈ front, isSpace c = true)
    (hc : ∀ c ∈ cs, isSpace c = false) (hb : ∀ c ∈ back, isSpace c = true) :
    trimChars (front ++ cs ++ back) = cs := by
  have none {l : List Char} (h : ∀ c ∈ l, isSpace c = false) : l.dropWhile isSpace = l := by
    cases l with
    | nil => rfl
    | cons c l =>
      rw [List.dropWhile_cons_of_neg]
      exact Bool.eq_false_iff.mp (h c List.mem_cons_self)
  have first : (front ++ cs ++ back).dropWhile isSpace = (cs ++ back).dropWhile isSpace := by
    rw [List.append_assoc, List.dropWhile_append_of_pos hf]
  cases cs with
  | nil =>
    have all : (front ++ [] ++ back).all isSpace = true := by
      rw [List.all_eq_true]
      grind
    exact (trimChars_eq_nil_iff _).mpr all
  | cons c cs =>
    have start : (c :: cs ++ back).dropWhile isSpace = c :: cs ++ back := by
      rw [List.cons_append, List.dropWhile_cons_of_neg]
      exact Bool.eq_false_iff.mp (hc c List.mem_cons_self)
    rw [trimChars, first, start, List.reverse_append, List.dropWhile_append_of_pos, none,
      List.reverse_reverse]
    · exact fun d hd => hc d (List.mem_reverse.mp hd)
    · exact fun d hd => hb d (List.mem_reverse.mp hd)

end CallMeter.Text
