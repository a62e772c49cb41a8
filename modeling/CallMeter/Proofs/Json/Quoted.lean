import CallMeter.Json.Printer
import CallMeter.Json.Reader

/-!
# Quoted strings read back

A string written in quotes is one token with that string, whatever its characters and whatever
follows the closing quote. Each character comes back from the way it stands in a string, by one
of the escapes or as it is.

## Main results

* `lex_escapeChar`: a character in a string reads back
* `lex_quoted`: a string in quotes reads back
-/

namespace CallMeter.Json

open Lexer (Place)

theorem hexDigit?_hexDigit {n : Nat} (h : n < 16) : Text.hexDigit? (hexDigit n) = some n := by
  revert n
  decide

/-- The code unit of a control character is the character itself. -/
theorem unitEnd_of_control (s : List Char) {c : Char} (h : c.toNat < 0x20) :
    Lexer.unitEnd s none c.toNat = some (.string (c :: s)) := by
  have trailing : ¬ (0xDC00 ≤ c.toNat && c.toNat ≤ 0xDFFF) = true := by simp; omega
  have leading : ¬ (0xD800 ≤ c.toNat && c.toNat ≤ 0xDBFF) = true := by simp; omega
  simp only [Lexer.unitEnd]
  rw [if_neg trailing, if_neg leading, Char.ofNat_toNat]

variable (done : List Token) (s rest : List Char)

/-- One digit of an escape that is not the last one. -/
theorem step_unit {c : Char} {d : Nat} (hd : Text.hexDigit? c = some d) (leading : Option Nat)
    (value digits : Nat) (h : 1 < digits) :
    Lexer.step ⟨done, .unit s leading value digits⟩ c =
      some ⟨done, .unit s leading (16 * value + d) (digits - 1)⟩ := by
  simp only [Lexer.step, hd, Option.bind_eq_bind, Option.bind_some, if_neg (Nat.not_le.mpr h)]
  rfl

/-- The last digit of an escape. -/
theorem step_unit_last {c : Char} {d : Nat} (hd : Text.hexDigit? c = some d)
    (leading : Option Nat) (value : Nat) {p : Place}
    (hp : Lexer.unitEnd s leading (16 * value + d) = some p) :
    Lexer.step ⟨done, .unit s leading value 1⟩ c = some ⟨done, p⟩ := by
  simp only [Lexer.step, hd, hp, Option.bind_eq_bind, Option.bind_some, if_pos (Nat.le_refl 1)]
  rfl

/-- The four digits of an escape lead to the control character with that number. -/
theorem lex_control {c : Char} (h : c.toNat < 0x20) :
    ('\\' :: 'u' :: '0' :: '0' :: hexDigit (c.toNat / 16) :: hexDigit (c.toNat % 16) :: rest).foldlM
      Lexer.step ⟨done, .string s⟩ = rest.foldlM Lexer.step ⟨done, .string (c :: s)⟩ := by
  have high := hexDigit?_hexDigit (n := c.toNat / 16) (by omega)
  have low := hexDigit?_hexDigit (n := c.toNat % 16) (by omega)
  have sum : 16 * (c.toNat / 16) + c.toNat % 16 = c.toNat := Nat.div_add_mod _ _
  have hlast : Lexer.unitEnd s none (16 * (16 * 0 + c.toNat / 16) + c.toNat % 16) =
      some (.string (c :: s)) := by
    rw [Nat.mul_zero, Nat.zero_add, sum, unitEnd_of_control s h]
  calc ('\\' :: 'u' :: '0' :: '0' :: hexDigit (c.toNat / 16) :: hexDigit (c.toNat % 16) ::
          rest).foldlM Lexer.step ⟨done, .string s⟩
      = (hexDigit (c.toNat / 16) :: hexDigit (c.toNat % 16) :: rest).foldlM Lexer.step
          ⟨done, .unit s none 0 2⟩ := rfl
    _ = rest.foldlM Lexer.step ⟨done, .string (c :: s)⟩ := by
      rw [List.foldlM_cons, step_unit done s high none 0 2 (by decide), Option.bind_eq_bind,
        Option.bind_some, List.foldlM_cons, step_unit_last done s low none _ hlast,
        Option.bind_eq_bind, Option.bind_some]

/-- **A character in a string** reads back from the way it stands there. -/
theorem lex_escapeChar (c : Char) :
    (escapeChar c ++ rest).foldlM Lexer.step ⟨done, .string s⟩ =
      rest.foldlM Lexer.step ⟨done, .string (c :: s)⟩ := by
  by_cases quote : c = '"'
  · subst quote; rfl
  by_cases backslash : c = '\\'
  · subst backslash; rfl
  by_cases backspace : c = '\x08'
  · subst backspace; rfl
  by_cases feed : c = '\x0c'
  · subst feed; rfl
  by_cases line : c = '\n'
  · subst line; rfl
  by_cases carriage : c = '\r'
  · subst carriage; rfl
  by_cases tab : c = '\t'
  · subst tab; rfl
  by_cases control : c.toNat < 0x20
  · have e : escapeChar c =
        ['\\', 'u', '0', '0', hexDigit (c.toNat / 16), hexDigit (c.toNat % 16)] := by
      simp [escapeChar, quote, backslash, backspace, feed, line, carriage, tab, control]
    rw [e]
    exact lex_control done s rest control
  · have e : escapeChar c = [c] := by
      simp [escapeChar, quote, backslash, backspace, feed, line, carriage, tab, control]
    have plain : Lexer.step ⟨done, .string s⟩ c = some ⟨done, .string (c :: s)⟩ := by
      simp [Lexer.step, quote, backslash, control]
    rw [e, List.singleton_append, List.foldlM_cons, plain, Option.bind_eq_bind, Option.bind_some]

/-- The characters of a string read back in order. -/
theorem lex_escaped (cs : List Char) :
    (cs.flatMap escapeChar ++ rest).foldlM Lexer.step ⟨done, .string s⟩ =
      rest.foldlM Lexer.step ⟨done, .string (cs.reverse ++ s)⟩ := by
  induction cs generalizing s with
  | nil => rfl
  | cons c cs ih =>
    rw [List.flatMap_cons, List.append_assoc, lex_escapeChar, ih, List.reverse_cons,
      List.append_assoc, List.singleton_append]

/-- **A string in quotes** is one token with that string. -/
theorem lex_quoted (text : String) :
    (quoted text ++ rest).foldlM Lexer.step ⟨done, .gap⟩ =
      rest.foldlM Lexer.step ⟨.text text :: done, .gap⟩ := by
  calc (quoted text ++ rest).foldlM Lexer.step ⟨done, .gap⟩
      = (text.toList.flatMap escapeChar ++ '"' :: rest).foldlM Lexer.step ⟨done, .string []⟩ := by
        rw [quoted, List.cons_append, List.append_assoc]; rfl
    _ = ('"' :: rest).foldlM Lexer.step ⟨done, .string text.toList.reverse⟩ := by
        rw [lex_escaped, List.append_nil]
    _ = rest.foldlM Lexer.step ⟨.text text :: done, .gap⟩ := by
        have close : Lexer.step ⟨done, .string text.toList.reverse⟩ '"' =
            some ⟨.text text :: done, .gap⟩ := by
          simp [Lexer.step]
        rw [List.foldlM_cons, close, Option.bind_eq_bind, Option.bind_some]

end CallMeter.Json
