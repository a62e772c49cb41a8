import CallMeter.Entries

/-!
# JSON values

Numbers keep what their literal was: a natural number below `2 ^ 64`, a negative integer, or a
double. An object is a list of members in the order of their first occurrence, each key once.

## Main definitions

* `Json.Number`, `Json`: the values
* `Json.field?`: the value of a member
* `Json.ofCounter`, `Json.ofDouble`, `Json.ofOption`: values of numbers and of what may be absent
-/

namespace CallMeter

/-- **Number**: a literal as it was written. A negative integer is given by its magnitude, from
one to `2 ^ 63`. -/
inductive Json.Number
  | natural (n : UInt64)
  | negative (magnitude : UInt64)
  | double (x : Float)
  deriving DecidableEq

/-- **JSON value**. -/
inductive Json
  | null
  | bool (b : Bool)
  | number (n : Json.Number)
  | string (s : String)
  | array (items : List Json)
  | object (members : List (String × Json))

namespace Json

instance : Inhabited Json := ⟨.null⟩

/-- The double nearest to a number. -/
def Number.toFloat : Number → Float
  | .natural n => n.toFloat
  | .negative m => -m.toFloat
  | .double x => x

/-- The value of a member of an object. -/
def field? (key : String) : Json → Option Json
  | object members => Entries.get? key members
  | _ => none

/-- The text of a string value. -/
def text? : Json → Option String
  | string s => some s
  | _ => none

/-- A counter. -/
def ofCounter (n : UInt64) : Json :=
  .number (.natural n)

/-- A double. -/
def ofDouble (x : Float) : Json :=
  .number (.double x)

/-- A value that may be absent. -/
def ofOption {α : Type} (f : α → Json) : Option α → Json
  | none => .null
  | some a => f a

/-- A value that is an object. -/
def isObject : Json → Bool
  | object _ => true
  | _ => false

end Json

end CallMeter
