import CallMeter.Decimal.Shortest

/-!
# Layouts of decimal text

Doubles as text. The shortest layouts choose the fewest digits that read back and differ in
where they go over to an exponent, in whether whole numbers keep a fraction, and in ties. The
fixed layout has a given number of places and rounds the exact value, a half going to the even
neighbour.

## Main definitions

* `Layout`, `Layout.render`: a double by its shortest digits
* `Layout.positionalOnly`: the layout without exponents
* `renderFixed`: a double with a fixed number of places
-/

namespace CallMeter.Decimal

/-- **Layout** of shortest decimals. -/
structure Layout where
  /-- The exponents of the first digit that are written without an exponent. -/
  positional : Int → Bool
  /-- Whole numbers end in `.0`. -/
  keepFraction : Bool
  /-- Where a value half-way between two shortest decimals goes. -/
  tie : Tie

namespace Layout

variable (l : Layout)

/-- Digits with the point where the exponent of the first digit puts it. -/
def plain (ds : List Char) (exponent : Int) : List Char :=
  if exponent < 0 then '0' :: '.' :: (List.replicate (-exponent - 1).toNat '0' ++ ds)
  else
    let whole := exponent.toNat + 1
    if ds.length ≤ whole then
      ds ++ List.replicate (whole - ds.length) '0' ++ if l.keepFraction then ['.', '0'] else []
    else ds.take whole ++ '.' :: ds.drop whole

/-- Digits with a point after the first and a signed exponent. -/
def scientific (ds : List Char) (exponent : Int) : List Char :=
  let mantissa := match ds with
    | [] => []
    | [d] => [d]
    | d :: r => d :: '.' :: r
  mantissa ++ 'e' :: (if exponent < 0 then '-' else '+') :: digits exponent.natAbs

/-- The magnitude of a finite double. -/
def magnitude (x : Float) : List Char :=
  if (Dyadic.ofFloat x).mantissa == 0 then
    if l.keepFraction then ['0', '.', '0'] else ['0']
  else
    let s := shortest l.tie x
    -- a coefficient that was rounded up may have one digit more than its grid
    let ds := digits s.coefficient
    let exponent := s.exponent + (ds.length : Int) - 1
    if l.positional exponent then l.plain (stripZeros ds) exponent
    else scientific (stripZeros ds) exponent

/-- **Text** of a double. -/
def render (x : Float) : String :=
  if x.isNaN then "NaN"
  else
    let sign := if isNegative x then "-" else ""
    if x.isFinite then sign ++ String.ofList (l.magnitude x) else sign ++ "inf"

/-- The layout of prices and settings: no exponent, and no fraction on whole numbers. -/
def positionalOnly : Layout where
  positional _ := true
  keepFraction := false
  tie := .up

end Layout

/-- The magnitude of a finite double with `places` digits after the point. -/
def fixedMagnitude (places : Nat) (x : Float) : List Char :=
  let (num, den) := (Dyadic.ofFloat x).ratio
  let ds := padded (places + 1) (roundDiv (num * Nat.pow 10 places) den .toEven)
  let whole := ds.length - places
  if places == 0 then ds else ds.take whole ++ '.' :: ds.drop whole

/-- A finite double with `places` digits after the point; a half goes to the even neighbour and
the sign is kept, also before a zero. -/
def renderFixed (places : Nat) (x : Float) : String :=
  (if isNegative x then "-" else "") ++ String.ofList (fixedMagnitude places x)

end CallMeter.Decimal
