import CallMeter.Decimal.Digits
import CallMeter.Text.Radix
import CallMeter.Text.Split

/-!
# Addresses

The service listens on an IP address given as text. Version four has four decimal numbers below
256 without zeros in front. Version six has eight groups of up to four hexadecimal digits; a
double colon stands for the groups of zeros that are missing, at least one, and the last two
groups may be written as an address of version four.

## Main definitions

* `Address`, `Address.ofText?`: an address and its text
* `Address.isLocal`: the address belongs to every machine
-/

namespace CallMeter.Http

/-- **Address**: four bytes, or eight groups of sixteen bits. -/
inductive Address
  | short (bytes : List Nat)
  | long (groups : List Nat)
  deriving DecidableEq

namespace Address

/-- A byte in decimal digits. -/
def readByte? (cs : List Char) : Option Nat :=
  if cs.length ≤ 3 && (cs.head? != some '0' || cs.length == 1) then
    (Decimal.readNat? cs).filter (· < 256)
  else none

/-- Four bytes joined by points. -/
def readBytes? (cs : List Char) : Option (List Nat) := do
  let bytes ← (Text.splitOn '.' cs).mapM readByte?
  if bytes.length = 4 then some bytes else none

/-- A group of one to four hexadecimal digits. -/
def readGroup? (cs : List Char) : Option Nat :=
  if cs.isEmpty || 4 < cs.length then none
  else (cs.mapM Text.hexDigit?).map fun ds => ds.foldl (fun n d => 16 * n + d) 0

/-- The groups of pieces; the last piece may be four bytes when `mixed`. -/
def readPieces? (mixed : Bool) : List (List Char) → Option (List Nat)
  | [] => some []
  | [piece] =>
    match if mixed then readBytes? piece else none with
    | some [a, b, c, d] => some [256 * a + b, 256 * c + d]
    | _ => (readGroup? piece).map fun g => [g]
  | piece :: rest => do return (← readGroup? piece) :: (← readPieces? mixed rest)

/-- The groups of a text between double colons. -/
def readGroups? (mixed : Bool) (cs : List Char) : Option (List Nat) :=
  if cs.isEmpty then some [] else readPieces? mixed (Text.splitOn ':' cs)

/-- The text before and after the first double colon. -/
def cutDouble : List Char → List Char × Option (List Char)
  | [] => ([], none)
  | ':' :: ':' :: r => ([], some r)
  | c :: r =>
    let (before, after) := cutDouble r
    (c :: before, after)

/-- Eight groups, a double colon for those that are missing. -/
def readLong? (cs : List Char) : Option (List Nat) :=
  match cutDouble cs with
  | (all, none) => (readGroups? true all).filter fun gs => gs.length = 8
  | (before, some after) => do
    -- the mixed form is for the end of an address
    let front ← readGroups? false before
    let back ← readGroups? true after
    if front.length + back.length ≤ 7 then
      some (front ++ List.replicate (8 - front.length - back.length) 0 ++ back)
    else none

/-- **The address** that a text spells. -/
def ofText? (s : String) : Option Address :=
  match readBytes? s.toList with
  | some bytes => some (.short bytes)
  | none => (readLong? s.toList).map .long

/-- Four bytes stand for any address of the machine, or for the machine itself. -/
def isLocalShort : List Nat → Bool
  | [0, 0, 0, 0] => true
  | 127 :: _ => true
  | _ => false

/-- **An address of every machine**: the one for all its addresses, or one for itself. -/
def isLocal : Address → Bool
  | short bytes => isLocalShort bytes
  | long [0, 0, 0, 0, 0, 0, 0, 0] => true
  | long [0, 0, 0, 0, 0, 0, 0, 1] => true
  | long [0, 0, 0, 0, 0, 0xFFFF, a, b] => isLocalShort [a / 256, a % 256, b / 256, b % 256]
  | long _ => false

example :
    ofText? "::ffff:127.0.0.1" = some (.long [0, 0, 0, 0, 0, 0xFFFF, 0x7F00, 1]) := by
  decide +kernel

end Address

end CallMeter.Http
