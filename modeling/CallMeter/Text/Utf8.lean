/-!
# UTF-8

Texts as bytes. Decoding goes byte by byte and cuts the input into well-formed characters and
longest ill-formed pieces: a piece ends before the first byte that cannot continue it, and that
byte begins the next one. A strict reading wants no ill-formed piece, a lossy one puts the
replacement character for each.

## Main definitions

* `Utf8.encode`: the bytes of a text
* `Utf8.pieces`: the characters of a byte sequence, `none` for an ill-formed piece
* `Utf8.decode?`, `Utf8.decodeLossy`: the strict and the lossy reading
-/

namespace CallMeter.Text.Utf8

/-- The bytes of a text. -/
def encode (s : String) : List UInt8 :=
  s.toList.flatMap String.utf8EncodeChar

/-- **Open character**: the bits read so far, the number of bytes to come, and the bounds of
the next byte. The bounds exclude overlong forms, surrogates and values past the last plane. -/
structure Pending where
  bits : Nat
  needed : Nat
  low : UInt8
  high : UInt8

/-- What a byte at the start of a character begins. -/
inductive Lead
  | done (c : Char)
  | more (p : Pending)
  | bad

/-- The role of a byte at the start of a character. -/
def lead (b : UInt8) : Lead :=
  let n := b.toNat
  if n < 0x80 then .done (Char.ofNat n)
  else if n < 0xC2 then .bad
  else if n < 0xE0 then .more ⟨n - 0xC0, 1, 0x80, 0xBF⟩
  else if n < 0xF0 then
    .more ⟨n - 0xE0, 2, if n == 0xE0 then 0xA0 else 0x80, if n == 0xED then 0x9F else 0xBF⟩
  else if n < 0xF5 then
    .more ⟨n - 0xF0, 3, if n == 0xF0 then 0x90 else 0x80, if n == 0xF4 then 0x8F else 0xBF⟩
  else .bad

/-- The pieces of a byte sequence after an open character, if there is one. -/
def piecesFrom : Option Pending → List UInt8 → List (Option Char)
  | none, [] => []
  | some _, [] => [none]
  | none, b :: r =>
    match lead b with
    | .done c => some c :: piecesFrom none r
    | .more p => piecesFrom (some p) r
    | .bad => none :: piecesFrom none r
  | some p, b :: r =>
    if p.low ≤ b && b ≤ p.high then
      let bits := 64 * p.bits + (b.toNat - 0x80)
      if p.needed ≤ 1 then some (Char.ofNat bits) :: piecesFrom none r
      else piecesFrom (some ⟨bits, p.needed - 1, 0x80, 0xBF⟩) r
    else
      match lead b with
      | .done c => none :: some c :: piecesFrom none r
      | .more q => none :: piecesFrom (some q) r
      | .bad => none :: none :: piecesFrom none r

/-- **Pieces** of a byte sequence: its characters, with `none` for each longest ill-formed
piece. -/
def pieces (bytes : List UInt8) : List (Option Char) :=
  piecesFrom none bytes

/-- The text that a byte sequence encodes, if it is well formed. -/
def decode? (bytes : List UInt8) : Option String :=
  ((pieces bytes).mapM id).map String.ofList

/-- The text of a byte sequence, with a replacement character for each ill-formed piece. -/
def decodeLossy (bytes : List UInt8) : String :=
  String.ofList ((pieces bytes).map fun p => p.getD '\uFFFD')

end CallMeter.Text.Utf8
