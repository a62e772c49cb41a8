import CallMeter.Proofs.Json.Quoted

/-!
# The tokens of a text in pieces

The tokens read so far decide nothing about those to come, so a text that starts with a token has
that token and the tokens of what follows. A bracket or separator and a string in quotes end by
themselves; a word ends where the text does or at a character that no word contains.

## Main definitions

* `Ends`: a text in front of which a word ends

## Main results

* `tokens?_mark`, `tokens?_quoted`, `tokens?_word`: the tokens of a text that starts with a
  single character, a string or a word
* `isWordChar_of_mem_writeNumber`: a number is written as one word
-/

namespace CallMeter.Json

open Lexer (Place)

/-! ## Tokens so far -/

section Done

variable (done more : List Token)

/-- The machine with some tokens in front of its own. -/
def Lexer.behind (m : Lexer) : Lexer :=
  ⟨m.done ++ done, m.place⟩

theorem gapStep_behind (c : Char) :
    Lexer.gapStep (more ++ done) c = (Lexer.gapStep more c).map (Lexer.behind done) := by
  unfold Lexer.gapStep
  split
  · rfl
  split
  · rfl
  split
  · rfl
  cases Lexer.mark? c <;> rfl

/-- **One step** does not look at the tokens so far. -/
theorem step_behind (m : Lexer) (c : Char) :
    Lexer.step (m.behind done) c = (Lexer.step m c).map (Lexer.behind done) := by
  obtain ⟨ts, place⟩ := m
  cases place with
  | gap => exact gapStep_behind done ts c
  | word w =>
    simp only [Lexer.behind, Lexer.step]
    split
    · rfl
    · cases wordScalar? w.reverse with
      | none => rfl
      | some v => exact gapStep_behind done (.scalar v :: ts) c
  | string s =>
    simp only [Lexer.behind, Lexer.step]
    split
    · rfl
    split
    · rfl
    split <;> rfl
  | escape s =>
    simp only [Lexer.behind, Lexer.step]
    split
    · rfl
    · cases shortEscape? c <;> rfl
  | unit s leading value digits =>
    simp only [Lexer.behind, Lexer.step]
    cases Text.hexDigit? c with
    | none => rfl
    | some d =>
      simp only [Option.bind_eq_bind, Option.bind_some]
      split
      · cases Lexer.unitEnd s leading (16 * value + d) <;> rfl
      · rfl
  | pair s leading =>
    simp only [Lexer.behind, Lexer.step]
    split <;> rfl
  | pairEscape s leading =>
    simp only [Lexer.behind, Lexer.step]
    split <;> rfl

theorem foldlM_behind (cs : List Char) (m : Lexer) :
    cs.foldlM Lexer.step (m.behind done) =
      (cs.foldlM Lexer.step m).map (Lexer.behind done) := by
  induction cs generalizing m with
  | nil => rfl
  | cons c cs ih =>
    rw [List.foldlM_cons, List.foldlM_cons, step_behind]
    cases Lexer.step m c with
    | none => rfl
    | some m' => exact ih m'

theorem finish_behind (m : Lexer) :
    (m.behind done).finish = m.finish.map (done.reverse ++ ·) := by
  obtain ⟨ts, place⟩ := m
  cases place with
  | word w =>
    simp only [Lexer.behind, Lexer.finish]
    cases wordScalar? w.reverse <;> simp
  | _ => simp [Lexer.behind, Lexer.finish]

/-- **The tokens of a text** come after those read before it. -/
theorem tokens_after (cs : List Char) :
    ((cs.foldlM Lexer.step ⟨done, .gap⟩).bind Lexer.finish) =
      (tokens? cs).map (done.reverse ++ ·) := by
  have start : (⟨done, .gap⟩ : Lexer) = Lexer.behind done ⟨[], .gap⟩ := rfl
  rw [start, foldlM_behind, tokens?]
  cases cs.foldlM Lexer.step ⟨[], .gap⟩ with
  | none => rfl
  | some m => exact finish_behind done m

end Done

/-! ## The first token -/

/-- A bracket or separator is a token. -/
theorem tokens?_mark {c : Char} {t : Token} (h : Lexer.gapStep [] c = some ⟨[t], .gap⟩)
    (cs : List Char) : tokens? (c :: cs) = (tokens? cs).map (t :: ·) := by
  have e : tokens? (c :: cs) = ((cs.foldlM Lexer.step ⟨[t], .gap⟩).bind Lexer.finish) := by
    rw [tokens?, List.foldlM_cons]
    simp only [Lexer.step, h]
    rfl
  rw [e, tokens_after]
  rfl

/-- A string in quotes is a token. -/
theorem tokens?_quoted (s : String) (cs : List Char) :
    tokens? (quoted s ++ cs) = (tokens? cs).map (.text s :: ·) := by
  have e : tokens? (quoted s ++ cs) =
      ((cs.foldlM Lexer.step ⟨[.text s], .gap⟩).bind Lexer.finish) := by
    rw [tokens?, lex_quoted]
    rfl
  rw [e, tokens_after]
  rfl

/-- **A word ends** in front of a text that goes on with no character of a word. -/
def Ends (rest : List Char) : Prop :=
  ∀ c ∈ rest.head?, isWordChar c = false

theorem ends_nil : Ends [] := by
  intro c hc
  simp at hc

theorem ends_cons {c : Char} (h : isWordChar c = false) (rest : List Char) : Ends (c :: rest) := by
  intro d hd
  obtain rfl := Option.mem_some_iff.mp hd
  exact h

variable {w rest : List Char}

/-- The characters of a word go into it. -/
theorem lex_word (hw : ∀ c ∈ w, isWordChar c = true) (start : List Char) :
    (w ++ rest).foldlM Lexer.step ⟨[], .word start⟩ =
      rest.foldlM Lexer.step ⟨[], .word (w.reverse ++ start)⟩ := by
  induction w generalizing start with
  | nil => rfl
  | cons c w ih =>
    obtain ⟨hc, hw⟩ := List.forall_mem_cons.mp hw
    have step : Lexer.step ⟨[], .word start⟩ c = some ⟨[], .word (c :: start)⟩ := by
      simp [Lexer.step, hc]
    rw [List.cons_append, List.foldlM_cons, step, Option.bind_eq_bind, Option.bind_some, ih hw,
      List.reverse_cons, List.append_assoc, List.singleton_append]

/-- A character of a word starts one between tokens. -/
theorem gapStep_of_isWordChar {c : Char} (h : isWordChar c = true) :
    Lexer.gapStep [] c = some ⟨[], .word [c]⟩ := by
  have noGap : ¬ isGap c = true := by
    intro hg
    simp only [isGap, Bool.or_eq_true, beq_iff_eq] at hg
    rcases hg with ((rfl | rfl) | rfl) | rfl <;> exact absurd h (by decide)
  have noQuote : c ≠ '"' := by
    rintro rfl
    exact absurd h (by decide)
  simp [Lexer.gapStep, noGap, noQuote, h]

/-- **A word** is a token if it spells a scalar, and no text starts with any other word. -/
theorem tokens?_word (hne : w ≠ []) (hw : ∀ c ∈ w, isWordChar c = true) (hrest : Ends rest) :
    tokens? (w ++ rest) =
      (wordScalar? w).bind fun v => (tokens? rest).map (.scalar v :: ·) := by
  obtain ⟨c, w, rfl⟩ := List.exists_cons_of_ne_nil hne
  obtain ⟨hc, hw⟩ := List.forall_mem_cons.mp hw
  have read : tokens? (c :: w ++ rest) =
      ((rest.foldlM Lexer.step ⟨[], .word (c :: w).reverse⟩).bind Lexer.finish) := by
    have first : Lexer.step ⟨[], .gap⟩ c = some ⟨[], .word [c]⟩ := gapStep_of_isWordChar hc
    have others : ((c :: w ++ rest).foldlM Lexer.step ⟨[], .gap⟩) =
        rest.foldlM Lexer.step ⟨[], .word (c :: w).reverse⟩ := by
      rw [List.cons_append, List.foldlM_cons, first, Option.bind_eq_bind, Option.bind_some,
        lex_word hw, List.reverse_cons]
    rw [tokens?, others]
    rfl
  rw [read]
  cases rest with
  | nil =>
    show (wordScalar? (c :: w).reverse.reverse).map _ = _
    rw [List.reverse_reverse]
    cases wordScalar? (c :: w) <;> rfl
  | cons d rest =>
    have close : Lexer.step ⟨[], .word (c :: w).reverse⟩ d =
        (wordScalar? (c :: w)).bind fun v => Lexer.gapStep [.scalar v] d := by
      simp only [Lexer.step, hrest d rfl, List.reverse_reverse]
      rfl
    rw [List.foldlM_cons, close]
    cases wordScalar? (c :: w) with
    | none => rfl
    | some v =>
      show ((d :: rest).foldlM Lexer.step ⟨[.scalar v], .gap⟩).bind Lexer.finish = _
      rw [tokens_after]
      rfl

/-! ## Numbers are words -/

section Numbers

open Decimal (Layout)

variable {l : Layout} {ds : List Char}

theorem isWordChar_of_isDigit {c : Char} (h : c.isDigit = true) : isWordChar c = true := by
  simp [isWordChar, Char.isAlphanum, h]

theorem isWordChar_of_mem_digits {n : Nat} {c : Char} (h : c ∈ Decimal.digits n) :
    isWordChar c = true :=
  isWordChar_of_isDigit (Decimal.isDigit_of_mem_digits h)

theorem isWordChar_of_mem_zeros {n : Nat} {c : Char} (h : c ∈ List.replicate n '0') :
    isWordChar c = true := by
  obtain rfl := List.eq_of_mem_replicate h
  decide

theorem isWordChar_of_mem_plain (hds : ∀ c ∈ ds, isWordChar c = true) (e : Int) :
    ∀ c ∈ l.plain ds e, isWordChar c = true := by
  intro c hc
  unfold Layout.plain at hc
  split at hc
  · simp only [List.mem_cons, List.mem_append] at hc
    rcases hc with rfl | rfl | hc | hc
    · decide
    · decide
    · exact isWordChar_of_mem_zeros hc
    · exact hds c hc
  · dsimp only at hc
    split at hc
    · simp only [List.mem_append] at hc
      rcases hc with (hc | hc) | hc
      · exact hds c hc
      · exact isWordChar_of_mem_zeros hc
      · split at hc
        · rcases List.mem_cons.mp hc with rfl | hc
          · decide
          · obtain rfl := List.mem_singleton.mp hc
            decide
        · exact absurd hc List.not_mem_nil
    · simp only [List.mem_append, List.mem_cons] at hc
      rcases hc with hc | rfl | hc
      · exact hds c (List.mem_of_mem_take hc)
      · decide
      · exact hds c (List.mem_of_mem_drop hc)

theorem isWordChar_of_mem_scientific (hds : ∀ c ∈ ds, isWordChar c = true) (e : Int) :
    ∀ c ∈ Layout.scientific ds e, isWordChar c = true := by
  intro c hc
  simp only [Layout.scientific, List.mem_append, List.mem_cons] at hc
  rcases hc with hc | rfl | hc | hc
  · split at hc
    · exact absurd hc List.not_mem_nil
    · exact hds c hc
    · rcases List.mem_cons.mp hc with rfl | hc
      · exact hds _ List.mem_cons_self
      · rcases List.mem_cons.mp hc with rfl | hc
        · decide
        · exact hds c (List.mem_cons_of_mem _ hc)
  · decide
  · split at hc <;> subst hc <;> decide
  · exact isWordChar_of_mem_digits hc

theorem isWordChar_of_mem_magnitude (x : Float) :
    ∀ c ∈ l.magnitude x, isWordChar c = true := by
  intro c hc
  have ds (n : Nat) : ∀ d ∈ Decimal.stripZeros (Decimal.digits n), isWordChar d = true := by
    intro d hd
    rw [Decimal.stripZeros, List.mem_reverse] at hd
    have sub := (List.dropWhile_sublist _).subset hd
    exact isWordChar_of_mem_digits (List.mem_reverse.mp sub)
  unfold Layout.magnitude at hc
  split at hc
  · split at hc <;> simp only [List.mem_cons, List.not_mem_nil, or_false] at hc
    · rcases hc with rfl | rfl | rfl <;> decide
    · subst hc
      decide
  · dsimp only at hc
    split at hc
    · exact isWordChar_of_mem_plain (ds _) _ c hc
    · exact isWordChar_of_mem_scientific (ds _) _ c hc

theorem isWordChar_of_mem_render (x : Float) :
    ∀ c ∈ (l.render x).toList, isWordChar c = true := by
  have sign : ∀ c ∈ (if Decimal.isNegative x then "-" else "").toList, isWordChar c = true := by
    intro c hc
    split at hc
    · obtain rfl : c = '-' := by simpa using hc
      decide
    · exact absurd hc (by simp)
  intro c hc
  unfold Layout.render at hc
  split at hc
  · exact List.all_eq_true.mp (by decide) c hc
  · dsimp only at hc
    split at hc <;> rw [String.toList_append, List.mem_append] at hc <;> rcases hc with hc | hc
    · exact sign c hc
    · rw [String.toList_ofList] at hc
      exact isWordChar_of_mem_magnitude x c hc
    · exact sign c hc
    · exact List.all_eq_true.mp (by decide) c hc

/-- **A number is written as a word.** -/
theorem isWordChar_of_mem_writeNumber (n : Number) : ∀ c ∈ writeNumber n, isWordChar c = true := by
  intro c hc
  cases n with
  | natural n => exact isWordChar_of_mem_digits hc
  | negative m =>
    rcases List.mem_cons.mp hc with rfl | hc
    · decide
    · exact isWordChar_of_mem_digits hc
  | double x =>
    rw [writeNumber] at hc
    split at hc
    · exact isWordChar_of_mem_render x c hc
    · exact List.all_eq_true.mp (by decide) c hc

theorem plain_ne_nil (ds : List Char) (e : Int) : l.plain ds e ≠ [] := by
  unfold Layout.plain
  split
  · exact List.cons_ne_nil _ _
  · dsimp only
    split
    · intro h
      have filled := congrArg List.length (List.append_eq_nil_iff.mp h).1
      rw [List.length_append, List.length_replicate, List.length_nil] at filled
      omega
    · exact List.append_ne_nil_of_right_ne_nil _ (List.cons_ne_nil _ _)

theorem magnitude_ne_nil (x : Float) : l.magnitude x ≠ [] := by
  unfold Layout.magnitude
  split
  · split <;> exact List.cons_ne_nil _ _
  · dsimp only
    split
    · exact plain_ne_nil _ _
    · exact List.append_ne_nil_of_right_ne_nil _ (List.cons_ne_nil _ _)

theorem render_ne_nil (x : Float) : (l.render x).toList ≠ [] := by
  unfold Layout.render
  split
  · decide
  · dsimp only
    split
    · rw [String.toList_append, String.toList_ofList]
      exact List.append_ne_nil_of_right_ne_nil _ (magnitude_ne_nil x)
    · rw [String.toList_append]
      exact List.append_ne_nil_of_right_ne_nil _ (by decide)

theorem writeNumber_ne_nil (n : Number) : writeNumber n ≠ [] := by
  cases n with
  | natural n => exact Decimal.digits_ne_nil _
  | negative m => exact List.cons_ne_nil _ _
  | double x =>
    rw [writeNumber]
    split
    · exact render_ne_nil x
    · decide

end Numbers

end CallMeter.Json
