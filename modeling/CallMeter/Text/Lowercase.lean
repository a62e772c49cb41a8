import CallMeter.Text.CaseTable

/-!
# Lower case

Full lower-casing of a text. Every character maps on its own but two: the capital `I` with a
dot keeps its dot as a combining mark, and a capital sigma becomes the final form at the end of
a word, that is, with a letter before it and none after it, case-ignorable characters skipped.

## Main definitions

* `lowerChar`: the lower case of one character, out of context
* `lowercase`: the lower case of a text
-/

namespace CallMeter.Text

/-- The lower case of one character, out of context. -/
def lowerChar (c : Char) : List Char :=
  let n := c.toNat
  if n < 0x80 then [c.toLower]
  else if n == 0x130 then ['i', '\u0307']
  else
    match caseRanges.find? fun r => r.first ≤ n && n ≤ r.last && (n - r.first) % r.step == 0 with
    | some r => [Char.ofNat (n + r.shift).toNat]
    | none => [c]

/-- The first character that is not case-ignorable is a letter with a case. -/
def meetsLetter (cs : List Char) : Bool :=
  match cs.dropWhile fun c => inRanges caseIgnorableRanges c.toNat with
  | [] => false
  | c :: _ => inRanges casedRanges c.toNat

/-- The lower case of `cs`, where `before` stands in front of it in reverse. -/
def lowerAfter (before : List Char) : List Char → List Char
  | [] => []
  | c :: r =>
    if c == 'Σ' then
      (if meetsLetter before && !meetsLetter r then 'ς' else 'σ') :: lowerAfter (c :: before) r
    else lowerChar c ++ lowerAfter (c :: before) r

/-- **Lower case** of a text. -/
def lowercase (s : String) : String :=
  String.ofList (lowerAfter [] s.toList)

/-- The letters `A` to `Z` of a text in lower case, all else unchanged. -/
def lowercaseAscii (s : String) : String :=
  String.ofList (s.toList.map Char.toLower)

end CallMeter.Text
