import CallMeter.Proofs.Decimal.Digits
import CallMeter.Proofs.Json.Tokens
import Mathlib.Tactic.ByContra

/-!
# The lexemes of a text

The tokens of a text by the grammar of its characters: brackets and separators, strings in quotes
with their escapes, words, and blanks between them. The lexer reads exactly the texts of this
grammar, with these tokens. Two scalars never follow each other in a document, so its words stay
apart without the blanks, and documents that differ in blanks alone are the same.

## Main definitions

* `SpellsUnit`: the code unit that four digits spell
* `Escaped`: the characters of a string as they stand in quotes
* `Lexemes`: a text with its tokens
* `unspaced`: a text without the blanks between its tokens

## Main results

* `Lexer.reads_string_iff`: a string is read up to its closing quote, and escapes are resolved
* `tokens?_eq_some_iff`: the tokens of a text are those of its lexemes
* `parse?_eq_of_unspaced`: documents that differ in the blanks between tokens are the same
-/

namespace CallMeter.Json

open Lexer (Place)

/-! ## The grammar -/

/-- **Four hexadecimal digits** with the code unit that they spell. -/
inductive SpellsUnit : List Char → Nat → Prop
  | mk {c₁ c₂ c₃ c₄ : Char} {d₁ d₂ d₃ d₄ : Nat} (h₁ : Text.hexDigit? c₁ = some d₁)
      (h₂ : Text.hexDigit? c₂ = some d₂) (h₃ : Text.hexDigit? c₃ = some d₃)
      (h₄ : Text.hexDigit? c₄ = some d₄) :
      SpellsUnit [c₁, c₂, c₃, c₄] (16 * (16 * (16 * d₁ + d₂) + d₃) + d₄)

/-- **A character as it stands in a string**: as it is, or by an escape of one letter, of a code
unit or of a pair of surrogates. -/
inductive Stands : List Char → Char → Prop
  | plain {c : Char} (quote : c ≠ '"') (backslash : c ≠ '\\') (visible : 0x20 ≤ c.toNat) :
      Stands [c] c
  | letter {e c : Char} (h : shortEscape? e = some c) : Stands ['\\', e] c
  | unit {ds : List Char} {n : Nat} {c : Char} (digits : SpellsUnit ds n)
      (h : Text.character? n = some c) : Stands ('\\' :: 'u' :: ds) c
  | pair {ds ds' : List Char} {high low : Nat} {c : Char} (leading : SpellsUnit ds high)
      (trailing : SpellsUnit ds' low) (h : Text.joinSurrogates? high low = some c) :
      Stands ('\\' :: 'u' :: (ds ++ '\\' :: 'u' :: ds')) c

/-- **The characters of a string** as they stand between its quotes. -/
inductive Escaped : List Char → List Char → Prop
  | nil : Escaped [] []
  | cons {w v s : List Char} {c : Char} (first : Stands w c) (rest : Escaped v s) :
      Escaped (w ++ v) (c :: s)

/-- **A text with its tokens.** Blanks stand between tokens, and a word goes on as long as its
characters do. -/
inductive Lexemes : List Char → List Token → Prop
  | nil : Lexemes [] []
  | gap {c : Char} {cs : List Char} {ts : List Token} (h : isGap c = true)
      (rest : Lexemes cs ts) : Lexemes (c :: cs) ts
  | mark {c : Char} {t : Token} {cs : List Char} {ts : List Token} (h : Lexer.mark? c = some t)
      (rest : Lexemes cs ts) : Lexemes (c :: cs) (t :: ts)
  | text {w s cs : List Char} {ts : List Token} (h : Escaped w s) (rest : Lexemes cs ts) :
      Lexemes ('"' :: (w ++ '"' :: cs)) (.text (String.ofList s) :: ts)
  | word {w cs : List Char} {v : Json} {ts : List Token} (h : wordScalar? w = some v)
      (nonempty : w ≠ []) (run : ∀ c ∈ w, isWordChar c = true) (ends : Ends cs)
      (rest : Lexemes cs ts) : Lexemes (w ++ cs) (.scalar v :: ts)

theorem hexDigit?_lt {c : Char} {d : Nat} (h : Text.hexDigit? c = some d) : d < 16 := by
  unfold Text.hexDigit? at h
  split_ifs at h with digit lower upper
  · have := (Decimal.isDigit_iff c).mp digit
    have nine : '9'.toNat = '0'.toNat + 9 := rfl
    obtain rfl := Option.some.inj h
    omega
  · simp only [Bool.and_eq_true, decide_eq_true_eq, Char.le_def, UInt32.le_iff_toNat_le] at lower
    obtain rfl := Option.some.inj h
    have : c.toNat ≤ 'f'.toNat := lower.2
    have f : 'f'.toNat = 'a'.toNat + 5 := rfl
    omega
  · simp only [Bool.and_eq_true, decide_eq_true_eq, Char.le_def, UInt32.le_iff_toNat_le] at upper
    obtain rfl := Option.some.inj h
    have : c.toNat ≤ 'F'.toNat := upper.2
    have f : 'F'.toNat = 'A'.toNat + 5 := rfl
    omega

theorem SpellsUnit.lt {ds : List Char} {n : Nat} (h : SpellsUnit ds n) : n < 0x10000 := by
  obtain ⟨h₁, h₂, h₃, h₄⟩ := h
  have := hexDigit?_lt h₁
  have := hexDigit?_lt h₂
  have := hexDigit?_lt h₃
  have := hexDigit?_lt h₄
  omega

theorem Stands.ne_nil {w : List Char} {c : Char} (h : Stands w c) : w ≠ [] := by
  cases h <;> exact List.cons_ne_nil _ _

/-! ## Reading on from a place -/

namespace Lexer

/-- **The machine reads** characters to the end of the text, and these tokens come out. -/
def Reads (m : Lexer) (cs : List Char) (ts : List Token) : Prop :=
  (cs.foldlM step m).bind finish = some ts

variable {m m' : Lexer} {c : Char} {cs rest s : List Char} {ts done : List Token} {place : Place}

theorem reads_gap_iff : Reads ⟨done, .gap⟩ cs ts ↔
    ∃ more, tokens? cs = some more ∧ done.reverse ++ more = ts := by
  rw [Reads, tokens_after, Option.map_eq_some_iff]

theorem reads_cons_iff :
    Reads m (c :: cs) ts ↔ ∃ m', m.step c = some m' ∧ Reads m' cs ts := by
  rw [Reads, List.foldlM_cons]
  cases m.step c with
  | none => simp
  | some m' => simp [Reads]

/-- Where the text may not end, another character follows. -/
theorem reads_iff_of_finish (unfinished : finish ⟨done, place⟩ = none) :
    Reads ⟨done, place⟩ cs ts ↔
      ∃ c rest m', cs = c :: rest ∧ Lexer.step ⟨done, place⟩ c = some m' ∧ Reads m' rest ts := by
  cases cs with
  | nil =>
    have stuck : ¬ Reads ⟨done, place⟩ [] ts := by
      intro h
      exact absurd (unfinished.symm.trans h) (by simp)
    simp [stuck]
  | cons c rest =>
    rw [reads_cons_iff]
    constructor
    · rintro ⟨m', one, read⟩
      exact ⟨c, rest, m', rfl, one, read⟩
    · rintro ⟨_, _, m', same, one, read⟩
      obtain ⟨rfl, rfl⟩ := List.cons.inj same
      exact ⟨m', one, read⟩

/-! ### Code units -/

/-- One digit of a code unit that is not its last one. -/
theorem reads_digit_iff {leading : Option Nat} {value digits : Nat} (more : 1 < digits) :
    Reads ⟨done, .unit s leading value digits⟩ cs ts ↔
      ∃ c d rest, cs = c :: rest ∧ Text.hexDigit? c = some d ∧
        Reads ⟨done, .unit s leading (16 * value + d) (digits - 1)⟩ rest ts := by
  rw [reads_iff_of_finish rfl]
  constructor
  · rintro ⟨c, rest, m', rfl, one, h⟩
    obtain ⟨d, hd, -⟩ := Option.bind_eq_some_iff.mp one
    rw [step_unit done s hd leading value digits more] at one
    obtain rfl := Option.some.inj one
    exact ⟨c, d, rest, rfl, hd, h⟩
  · rintro ⟨c, d, rest, rfl, hd, h⟩
    exact ⟨c, rest, _, rfl, step_unit done s hd leading value digits more, h⟩

/-- The last digit of a code unit. -/
theorem reads_last_digit_iff {leading : Option Nat} {value : Nat} :
    Reads ⟨done, .unit s leading value 1⟩ cs ts ↔
      ∃ c d rest place, cs = c :: rest ∧ Text.hexDigit? c = some d ∧
        unitEnd s leading (16 * value + d) = some place ∧ Reads ⟨done, place⟩ rest ts := by
  rw [reads_iff_of_finish rfl]
  constructor
  · rintro ⟨c, rest, m', rfl, one, h⟩
    obtain ⟨d, hd, last⟩ := Option.bind_eq_some_iff.mp one
    simp only [le_refl, if_true] at last
    obtain ⟨place, hp, same⟩ := Option.bind_eq_some_iff.mp last
    obtain rfl := Option.some.inj same
    exact ⟨c, d, rest, place, rfl, hd, hp, h⟩
  · rintro ⟨c, d, rest, place, rfl, hd, hp, h⟩
    exact ⟨c, rest, _, rfl, step_unit_last done s hd leading value hp, h⟩

/-- **The four digits of a code unit.** -/
theorem reads_unit_iff {leading : Option Nat} :
    Reads ⟨done, .unit s leading 0 4⟩ cs ts ↔
      ∃ ds n rest place, cs = ds ++ rest ∧ SpellsUnit ds n ∧ unitEnd s leading n = some place ∧
        Reads ⟨done, place⟩ rest ts := by
  constructor
  · intro h
    obtain ⟨c₁, d₁, _, rfl, h₁, h⟩ := (reads_digit_iff (by decide)).mp h
    obtain ⟨c₂, d₂, _, rfl, h₂, h⟩ := (reads_digit_iff (by decide)).mp h
    obtain ⟨c₃, d₃, _, rfl, h₃, h⟩ := (reads_digit_iff (by decide)).mp h
    obtain ⟨c₄, d₄, rest, place, rfl, h₄, hp, h⟩ := reads_last_digit_iff.mp h
    rw [Nat.mul_zero, Nat.zero_add] at hp
    exact ⟨_, _, rest, place, rfl, .mk h₁ h₂ h₃ h₄, hp, h⟩
  · rintro ⟨ds, n, rest, place, rfl, ⟨h₁, h₂, h₃, h₄⟩, hp, h⟩
    apply (reads_digit_iff (by decide)).mpr
    refine ⟨_, _, _, rfl, h₁, (reads_digit_iff (by decide)).mpr ?_⟩
    refine ⟨_, _, _, rfl, h₂, (reads_digit_iff (by decide)).mpr ?_⟩
    refine ⟨_, _, _, rfl, h₃, reads_last_digit_iff.mpr ⟨_, _, rest, place, rfl, h₄, ?_, h⟩⟩
    rwa [Nat.mul_zero, Nat.zero_add]

/-- A code unit that stands alone is a character or a leading surrogate. -/
theorem unitEnd_none_eq_some_iff {n : Nat} (h : n < 0x10000) :
    unitEnd s none n = some place ↔
      (∃ c, Text.character? n = some c ∧ place = .string (c :: s)) ∨
        (0xD800 ≤ n ∧ n ≤ 0xDBFF ∧ place = .pair s n) := by
  simp only [unitEnd, Text.character?, Bool.and_eq_true, decide_eq_true_eq]
  grind

/-- A code unit after a leading surrogate is a trailing one. -/
theorem unitEnd_some_eq_some_iff {high low : Nat} (h : 0xD800 ≤ high ∧ high ≤ 0xDBFF) :
    unitEnd s (some high) low = some place ↔
      ∃ c, Text.joinSurrogates? high low = some c ∧ place = .string (c :: s) := by
  have joined : Text.joinSurrogates? high low =
      if 0xDC00 ≤ low ∧ low ≤ 0xDFFF then
        some (Char.ofNat (0x10000 + (high - 0xD800) * 0x400 + (low - 0xDC00)))
      else none := by
    rw [Text.joinSurrogates?]
    split_ifs with both trailing trailing
    · rw [Text.character?, if_pos (by omega)]
    · omega
    · omega
    · rfl
  simp only [unitEnd, joined, Bool.and_eq_true, decide_eq_true_eq]
  split_ifs <;> simp [eq_comm]

/-! ### Strings -/

theorem reads_pair_iff {high : Nat} (h : 0xD800 ≤ high ∧ high ≤ 0xDBFF) :
    Reads ⟨done, .pair s high⟩ cs ts ↔
      ∃ ds low c rest, cs = '\\' :: 'u' :: (ds ++ rest) ∧ SpellsUnit ds low ∧
        Text.joinSurrogates? high low = some c ∧ Reads ⟨done, .string (c :: s)⟩ rest ts := by
  constructor
  · intro read
    obtain ⟨c₁, _, m₁, rfl, one, read⟩ := (reads_iff_of_finish rfl).mp read
    simp only [step] at one
    split_ifs at one with backslash
    obtain rfl := Option.some.inj one
    obtain ⟨c₂, _, m₂, rfl, two, read⟩ := (reads_iff_of_finish rfl).mp read
    simp only [step] at two
    split_ifs at two with letter
    obtain rfl := Option.some.inj two
    obtain ⟨ds, low, rest, place, rfl, digits, last, read⟩ := reads_unit_iff.mp read
    obtain ⟨c, joined, rfl⟩ := (unitEnd_some_eq_some_iff h).mp last
    rw [beq_iff_eq.mp backslash, beq_iff_eq.mp letter]
    exact ⟨ds, low, c, rest, rfl, digits, joined, read⟩
  · rintro ⟨ds, low, c, rest, rfl, digits, joined, read⟩
    apply reads_cons_iff.mpr
    refine ⟨_, rfl, reads_cons_iff.mpr ⟨_, rfl, reads_unit_iff.mpr ?_⟩⟩
    exact ⟨ds, low, rest, _, rfl, digits, (unitEnd_some_eq_some_iff h).mpr ⟨c, joined, rfl⟩, read⟩

/-- What an escape of code units stands for. -/
theorem reads_first_unit_iff :
    Reads ⟨done, .unit s none 0 4⟩ cs ts ↔
      ∃ w c rest, cs = w ++ rest ∧ Stands ('\\' :: 'u' :: w) c ∧
        Reads ⟨done, .string (c :: s)⟩ rest ts := by
  constructor
  · intro read
    obtain ⟨ds, n, rest, place, rfl, digits, last, read⟩ := reads_unit_iff.mp read
    rcases (unitEnd_none_eq_some_iff digits.lt).mp last with
      ⟨c, hc, rfl⟩ | ⟨low, high, rfl⟩
    · exact ⟨ds, c, rest, rfl, .unit digits hc, read⟩
    · obtain ⟨ds', low', c, rest, rfl, digits', joined, read⟩ :=
        (reads_pair_iff ⟨low, high⟩).mp read
      exact ⟨ds ++ '\\' :: 'u' :: ds', c, rest, by simp, .pair digits digits' joined, read⟩
  · rintro ⟨w, c, rest, rfl, stands, read⟩
    cases stands with
    | letter h => simp [shortEscape?] at h
    | unit digits h =>
      have last := (unitEnd_none_eq_some_iff (s := s) digits.lt).mpr
        (.inl ⟨c, h, rfl⟩)
      exact reads_unit_iff.mpr ⟨_, _, rest, _, rfl, digits, last, read⟩
    | @pair ds ds' high low _ leading trailing h =>
      have bounds : 0xD800 ≤ high ∧ high ≤ 0xDBFF := by
        unfold Text.joinSurrogates? at h
        split_ifs at h with both
        exact ⟨both.1, both.2.1⟩
      have last := (unitEnd_none_eq_some_iff (s := s) leading.lt).mpr
        (.inr ⟨bounds.1, bounds.2, rfl⟩)
      refine reads_unit_iff.mpr ⟨ds, high, _, _, List.append_assoc _ _ _, leading, last, ?_⟩
      exact (reads_pair_iff bounds).mpr ⟨ds', low, c, rest, rfl, trailing, h, read⟩

/-- **One character of a string**, or the quote that closes it. -/
theorem reads_string_step_iff :
    Reads ⟨done, .string s⟩ cs ts ↔
      (∃ rest, cs = '"' :: rest ∧ Reads ⟨.text (String.ofList s.reverse) :: done, .gap⟩ rest ts) ∨
        ∃ w c rest, cs = w ++ rest ∧ Stands w c ∧ Reads ⟨done, .string (c :: s)⟩ rest ts := by
  constructor
  · intro read
    obtain ⟨c, cs, m, rfl, one, read⟩ := (reads_iff_of_finish rfl).mp read
    simp only [step] at one
    split_ifs at one with quote backslash control
    · obtain rfl := Option.some.inj one
      rw [beq_iff_eq.mp quote]
      exact .inl ⟨cs, rfl, read⟩
    · obtain rfl := Option.some.inj one
      obtain ⟨e, cs, m, rfl, two, read⟩ := (reads_iff_of_finish rfl).mp read
      rw [beq_iff_eq.mp backslash]
      simp only [step] at two
      split_ifs at two with unit
      · obtain rfl := Option.some.inj two
        obtain ⟨w, c, rest, rfl, stands, read⟩ := reads_first_unit_iff.mp read
        rw [beq_iff_eq.mp unit]
        exact .inr ⟨_, c, rest, rfl, stands, read⟩
      · obtain ⟨c, hc, rfl⟩ := Option.map_eq_some_iff.mp two
        exact .inr ⟨['\\', e], c, cs, rfl, .letter hc, read⟩
    · obtain rfl := Option.some.inj one
      have plain : Stands [c] c :=
        .plain (by simpa using quote) (by simpa using backslash) (by simpa using control)
      exact .inr ⟨[c], c, cs, rfl, plain, read⟩
  · rintro (⟨rest, rfl, read⟩ | ⟨w, c, rest, rfl, stands, read⟩)
    · exact reads_cons_iff.mpr ⟨_, rfl, read⟩
    · cases stands with
      | plain quote backslash visible =>
        refine reads_cons_iff.mpr ⟨_, ?_, read⟩
        simp [step, quote, backslash, visible]
      | @letter e _ h =>
        have other : e ≠ 'u' := by
          rintro rfl
          simp [shortEscape?] at h
        refine reads_cons_iff.mpr ⟨_, rfl, reads_cons_iff.mpr ⟨_, ?_, read⟩⟩
        simp [step, other, h]
      | unit digits h =>
        refine reads_cons_iff.mpr ⟨_, rfl, reads_cons_iff.mpr ⟨_, rfl, ?_⟩⟩
        exact reads_first_unit_iff.mpr ⟨_, c, rest, rfl, .unit digits h, read⟩
      | pair leading trailing h =>
        refine reads_cons_iff.mpr ⟨_, rfl, reads_cons_iff.mpr ⟨_, rfl, ?_⟩⟩
        exact reads_first_unit_iff.mpr ⟨_, c, rest, rfl, .pair leading trailing h, read⟩

/-- **A string is read** up to its closing quote, with the characters that stand in it. -/
theorem reads_string_iff :
    Reads ⟨done, .string s⟩ cs ts ↔
      ∃ w s' rest, cs = w ++ '"' :: rest ∧ Escaped w s' ∧
        Reads ⟨.text (String.ofList (s.reverse ++ s')) :: done, .gap⟩ rest ts := by
  constructor
  · induction hn : cs.length using Nat.strong_induction_on generalizing cs s with
    | _ n ih =>
      intro read
      rcases reads_string_step_iff.mp read with ⟨rest, rfl, read⟩ | ⟨w, c, rest, rfl, stands, read⟩
      · exact ⟨[], [], rest, rfl, .nil, by rwa [List.append_nil]⟩
      · have shorter : rest.length < n := by
          have := List.length_pos_iff.mpr stands.ne_nil
          rw [← hn, List.length_append]
          omega
        obtain ⟨w', s', rest, rfl, escaped, read⟩ := ih _ shorter rfl read
        rw [List.reverse_cons, List.append_assoc, List.singleton_append] at read
        exact ⟨w ++ w', c :: s', rest, by simp, .cons stands escaped, read⟩
  · rintro ⟨w, s', rest, rfl, escaped, read⟩
    induction escaped generalizing s with
    | nil =>
      rw [List.append_nil] at read
      exact reads_string_step_iff.mpr (.inl ⟨rest, rfl, read⟩)
    | @cons w w' s' c stands escaped ih =>
      refine reads_string_step_iff.mpr (.inr ⟨w, c, _, List.append_assoc _ _ _, stands, ih ?_⟩)
      rwa [List.reverse_cons, List.append_assoc, List.singleton_append]

end Lexer

/-! ## Whole texts -/

theorem tokens?_gap {c : Char} (h : isGap c = true) (cs : List Char) :
    tokens? (c :: cs) = tokens? cs := by
  have step : Lexer.step ⟨[], .gap⟩ c = some ⟨[], .gap⟩ := by
    simp [Lexer.step, Lexer.gapStep, h]
  rw [tokens?, List.foldlM_cons, step]
  rfl

theorem gapStep_of_mark? {c : Char} {t : Token} (h : Lexer.mark? c = some t) :
    Lexer.gapStep [] c = some ⟨[t], .gap⟩ := by
  unfold Lexer.mark? at h
  split at h <;> first | (cases h; rfl) | cases h

/-- A string at the start of a text. -/
theorem tokens?_quote_eq_some_iff {cs : List Char} {ts : List Token} :
    tokens? ('"' :: cs) = some ts ↔ ∃ w s rest more, cs = w ++ '"' :: rest ∧ Escaped w s ∧
      tokens? rest = some more ∧ .text (String.ofList s) :: more = ts := by
  have start : tokens? ('"' :: cs) = some ts ↔ Lexer.Reads ⟨[], .string []⟩ cs ts := Iff.rfl
  rw [start, Lexer.reads_string_iff]
  simp only [Lexer.reads_gap_iff, List.reverse_nil, List.nil_append, List.reverse_singleton,
    List.singleton_append]
  constructor
  · rintro ⟨w, s, rest, rfl, escaped, more, read, rfl⟩
    exact ⟨w, s, rest, more, rfl, escaped, read, rfl⟩
  · rintro ⟨w, s, rest, more, rfl, escaped, read, rfl⟩
    exact ⟨w, s, rest, rfl, escaped, more, read, rfl⟩

/-- A text that starts with a character of a word starts with a word. -/
theorem exists_word {c : Char} (h : isWordChar c = true) (cs : List Char) :
    ∃ w rest, c :: cs = w ++ rest ∧ w ≠ [] ∧ (∀ d ∈ w, isWordChar d = true) ∧ Ends rest := by
  refine ⟨(c :: cs).takeWhile isWordChar, (c :: cs).dropWhile isWordChar,
    List.takeWhile_append_dropWhile.symm, ?_, fun d => List.mem_takeWhile_imp, ?_⟩
  · rw [List.takeWhile_cons_of_pos h]
    exact List.cons_ne_nil _ _
  · intro d hd
    have := List.head?_dropWhile_not isWordChar (c :: cs)
    simpa [Option.mem_def.mp hd] using this

/-- Any other character is a bracket or a separator. -/
theorem exists_mark {c : Char} (gap : ¬ isGap c = true) (quote : c ≠ '"')
    (word : ¬ isWordChar c = true) {cs : List Char} {ts : List Token}
    (h : tokens? (c :: cs) = some ts) :
    ∃ t more, Lexer.mark? c = some t ∧ tokens? cs = some more ∧ t :: more = ts := by
  have start : Lexer.gapStep [] c = (Lexer.mark? c).map fun t => ⟨[t], .gap⟩ := by
    simp [Lexer.gapStep, gap, quote, word]
  cases marked : Lexer.mark? c with
  | none =>
    have stuck : tokens? (c :: cs) = none := by
      rw [tokens?, List.foldlM_cons]
      simp only [Lexer.step, start, marked]
      rfl
    rw [stuck] at h
    cases h
  | some t =>
    rw [tokens?_mark (gapStep_of_mark? marked)] at h
    obtain ⟨more, others, rfl⟩ := Option.map_eq_some_iff.mp h
    exact ⟨t, more, rfl, others, rfl⟩

/-- **The tokens of a text** are those of its lexemes. -/
theorem tokens?_eq_some_iff {cs : List Char} {ts : List Token} :
    tokens? cs = some ts ↔ Lexemes cs ts := by
  constructor
  · induction hn : cs.length using Nat.strong_induction_on generalizing cs ts with
    | _ n ih =>
      intro read
      cases cs with
      | nil =>
        obtain rfl := Option.some.inj read
        exact .nil
      | cons c cs =>
        rw [List.length_cons] at hn
        by_cases gap : isGap c = true
        · rw [tokens?_gap gap] at read
          exact .gap gap (ih _ (by omega) rfl read)
        by_cases quote : c = '"'
        · subst quote
          obtain ⟨w, s, rest, more, rfl, escaped, others, rfl⟩ :=
            tokens?_quote_eq_some_iff.mp read
          rw [List.length_append, List.length_cons] at hn
          exact .text escaped (ih _ (by omega) rfl others)
        by_cases word : isWordChar c = true
        · obtain ⟨w, rest, split, nonempty, run, ends⟩ := exists_word word cs
          have shorter : rest.length < n := by
            have := List.length_pos_iff.mpr nonempty
            rw [← hn, ← List.length_cons (a := c), split, List.length_append]
            omega
          rw [split, tokens?_word nonempty run ends] at read
          obtain ⟨v, hv, read⟩ := Option.bind_eq_some_iff.mp read
          obtain ⟨more, others, rfl⟩ := Option.map_eq_some_iff.mp read
          rw [split]
          exact .word hv nonempty run ends (ih _ shorter rfl others)
        · obtain ⟨t, more, marked, others, rfl⟩ := exists_mark gap quote word read
          exact .mark marked (ih _ (by omega) rfl others)
  · intro lexemes
    induction lexemes with
    | nil => rfl
    | gap h rest ih => rw [tokens?_gap h, ih]
    | mark h rest ih =>
      rw [tokens?_mark (gapStep_of_mark? h), ih]
      rfl
    | text h rest ih => exact tokens?_quote_eq_some_iff.mpr ⟨_, _, _, _, rfl, h, ih, rfl⟩
    | word h nonempty run ends rest ih =>
      rw [tokens?_word nonempty run ends, h, ih]
      rfl

/-! ## Blanks between tokens -/

/-- **A text without the blanks** between its tokens. Those in strings stay, up to a quote that no
backslash stands before. -/
def unspaced : (inString : Bool) → List Char → List Char
  | _, [] => []
  | false, c :: cs => if isGap c then unspaced false cs else c :: unspaced (c == '"') cs
  | true, '\\' :: c :: cs => '\\' :: c :: unspaced true cs
  | true, c :: cs => c :: unspaced (c != '"') cs

/-- Tokens with no two scalars next to each other. -/
def ScalarsApart (ts : List Token) : Prop :=
  ∀ before v w after, ts ≠ before ++ .scalar v :: .scalar w :: after

theorem not_isGap_of_isWordChar {c : Char} (h : isWordChar c = true) : ¬ isGap c = true := by
  intro gap
  simp only [isGap, Bool.or_eq_true, beq_iff_eq] at gap
  rcases gap with ((rfl | rfl) | rfl) | rfl <;> exact absurd h (by decide)

theorem unspaced_plain {c : Char} (backslash : c ≠ '\\') (cs : List Char) :
    unspaced true (c :: cs) = c :: unspaced (c != '"') cs := by
  rw [unspaced]
  rintro d ds rfl -
  exact backslash rfl

theorem not_quote_of_hexDigit? {c : Char} {d : Nat} (h : Text.hexDigit? c = some d) :
    c ≠ '"' ∧ c ≠ '\\' := by
  constructor <;> rintro rfl <;> simp [Text.hexDigit?] at h

theorem unspaced_unit {ds : List Char} {n : Nat} (h : SpellsUnit ds n) (cs : List Char) :
    unspaced true (ds ++ cs) = ds ++ unspaced true cs := by
  have digit {c : Char} {d : Nat} (h : Text.hexDigit? c = some d) (cs : List Char) :
      unspaced true (c :: cs) = c :: unspaced true cs := by
    obtain ⟨quote, backslash⟩ := not_quote_of_hexDigit? h
    rw [unspaced_plain backslash, bne_iff_ne.mpr quote]
  obtain ⟨h₁, h₂, h₃, h₄⟩ := h
  simp only [List.cons_append, List.nil_append, digit h₁, digit h₂, digit h₃, digit h₄]

theorem unspaced_stands {w : List Char} {c : Char} (h : Stands w c) (cs : List Char) :
    unspaced true (w ++ cs) = w ++ unspaced true cs := by
  cases h with
  | plain quote backslash visible =>
    rw [List.singleton_append, unspaced_plain backslash, bne_iff_ne.mpr quote]
    rfl
  | letter h => rfl
  | unit digits h =>
    rw [List.cons_append, List.cons_append, unspaced, unspaced_unit digits]
    rfl
  | pair leading trailing h =>
    simp only [List.cons_append, List.append_assoc, unspaced, unspaced_unit leading,
      unspaced_unit trailing]

/-- The characters between quotes stay. -/
theorem unspaced_escaped {w s : List Char} (h : Escaped w s) (cs : List Char) :
    unspaced true (w ++ '"' :: cs) = w ++ '"' :: unspaced false cs := by
  induction h with
  | nil => rw [List.nil_append, unspaced_plain (by decide)]; rfl
  | cons first rest ih => rw [List.append_assoc, unspaced_stands first, ih, List.append_assoc]

theorem unspaced_word {w : List Char} (h : ∀ c ∈ w, isWordChar c = true) (cs : List Char) :
    unspaced false (w ++ cs) = w ++ unspaced false cs := by
  induction w with
  | nil => rfl
  | cons c w ih =>
    obtain ⟨hc, hw⟩ := List.forall_mem_cons.mp h
    have quote : (c == '"') = false := by
      rw [beq_eq_false_iff_ne]
      rintro rfl
      exact absurd hc (by decide)
    rw [List.cons_append, unspaced, if_neg (not_isGap_of_isWordChar hc), quote, ih hw]
    rfl

/-- A text that starts with a word has a scalar as its first token. -/
theorem Lexemes.exists_scalar {c : Char} {cs : List Char} {ts : List Token}
    (h : Lexemes (c :: cs) ts) (word : isWordChar c = true) : ∃ v more, ts = .scalar v :: more := by
  generalize hcs : c :: cs = all at h
  cases h with
  | nil => cases hcs
  | gap gap rest =>
    cases hcs
    exact absurd gap (not_isGap_of_isWordChar word)
  | mark marked rest =>
    cases hcs
    unfold Lexer.mark? at marked
    split at marked <;> first | exact absurd word (by decide) | cases marked
  | text escaped rest =>
    cases hcs
    exact absurd word (by decide)
  | word h nonempty run ends rest => exact ⟨_, _, rfl⟩

/-- **Blanks can be left out** where no two scalars would meet. -/
theorem Lexemes.unspaced {cs : List Char} {ts : List Token} (h : Lexemes cs ts)
    (apart : ScalarsApart ts) : Lexemes (unspaced false cs) ts := by
  have tail {t : Token} {ts : List Token} (apart : ScalarsApart (t :: ts)) : ScalarsApart ts := by
    intro before v w after e
    exact apart (t :: before) v w after (congrArg (t :: ·) e)
  induction h with
  | nil => exact .nil
  | gap gap rest ih =>
    rw [Json.unspaced, if_pos gap]
    exact ih apart
  | @mark c t cs ts marked rest ih =>
    have kept : Json.unspaced false (c :: cs) = c :: Json.unspaced false cs := by
      unfold Lexer.mark? at marked
      split at marked <;> first | rfl | cases marked
    rw [kept]
    exact .mark marked (ih (tail apart))
  | @text w s cs ts escaped rest ih =>
    have kept : Json.unspaced false ('"' :: (w ++ '"' :: cs)) =
        '"' :: (w ++ '"' :: Json.unspaced false cs) := by
      rw [Json.unspaced, if_neg (by decide), ← unspaced_escaped escaped]
      rfl
    rw [kept]
    exact .text escaped (ih (tail apart))
  | @word w cs v ts h nonempty run ends rest ih =>
    have others := ih (tail apart)
    rw [unspaced_word run]
    refine .word h nonempty run ?_ others
    intro c hc
    by_contra word
    obtain ⟨cs', same⟩ : ∃ cs', Json.unspaced false cs = c :: cs' := by
      cases hcs : Json.unspaced false cs with
      | nil => simp [hcs] at hc
      | cons d cs' =>
        rw [hcs, List.head?_cons, Option.mem_some_iff] at hc
        exact ⟨cs', by rw [hc]⟩
    rw [same] at others
    obtain ⟨v', more, rfl⟩ := others.exists_scalar (Bool.not_eq_false _ ▸ word)
    exact apart [] v v' more rfl

/-- **A document has no two scalars** next to each other. -/
theorem scalarsApart_of_ofTokens? {ts : List Token} {v : Json} (h : ofTokens? ts = some v) :
    ScalarsApart ts := by
  rintro before a b after rfl
  obtain ⟨m, read, -⟩ := Option.bind_eq_some_iff.mp h
  rw [List.foldlM_append] at read
  obtain ⟨m₁, -, read⟩ := Option.bind_eq_some_iff.mp read
  rw [List.foldlM_cons] at read
  obtain ⟨m₂, first, read⟩ := Option.bind_eq_some_iff.mp read
  rw [List.foldlM_cons] at read
  obtain ⟨m₃, second, -⟩ := Option.bind_eq_some_iff.mp read
  obtain ⟨stack, mode⟩ := m₁
  have waiting : m₂ = ⟨stack, .after a⟩ := by
    cases mode <;> simp_all [Reader.step, Reader.valueStep, Reader.afterStep]
  subst waiting
  cases stack with
  | nil => cases second
  | cons f stack => cases f <;> cases second

/-- **Documents that differ in blanks alone**, between their tokens, are the same. -/
theorem parse?_eq_of_unspaced {text text' : String} {v v' : Json}
    (same : unspaced false text.toList = unspaced false text'.toList)
    (h : parse? text = some v) (h' : parse? text' = some v') : v = v' := by
  have read {text : String} {v : Json} (h : parse? text = some v) :
      ∃ ts, tokens? (unspaced false text.toList) = some ts ∧ ofTokens? ts = some v := by
    obtain ⟨ts, lexed, read⟩ := Option.bind_eq_some_iff.mp h
    have lexemes := tokens?_eq_some_iff.mp lexed
    exact ⟨ts, tokens?_eq_some_iff.mpr (lexemes.unspaced (scalarsApart_of_ofTokens? read)), read⟩
  obtain ⟨ts, lexed, read₁⟩ := read h
  obtain ⟨ts', lexed', read₂⟩ := read h'
  rw [same, lexed'] at lexed
  obtain rfl := Option.some.inj lexed
  exact Option.some.inj (read₁.symm.trans read₂)

end CallMeter.Json
