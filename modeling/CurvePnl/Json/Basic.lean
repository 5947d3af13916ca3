import CurvePnl.Decimal.Numeral

/-! # JSON values

A JSON value keeps its numbers as they are written and its members in the order in which they
stand, repetitions included. A string with half of a surrogate pair in its escapes may stand in a
document but has no text; it is kept as a string without one.
-/

namespace CurvePnl

/-- A JSON value. -/
inductive Json where
  | null
  | bool (b : Bool)
  | number (n : Numeral)
  | string (s : Option String)
  | array (items : List Json)
  | object (members : List (Option String × Json))
  deriving Repr

namespace Json

instance : Inhabited Json := ⟨null⟩

def text (s : String) : Json := string (some s)

def ofNat (n : Nat) : Json := number (.ofNat n)

def ofInt (n : Int) : Json := number (.ofInt n)

/-- A double with the fewest digits that read back; what is not finite is null. -/
def ofFloat (x : Float) : Json :=
  match Layout.document.numeral? x with
  | some n => number n
  | none => null

/-- An object with these members. -/
def ofMembers (members : List (String × Json)) : Json :=
  object (members.map fun (name, v) => (some name, v))

def ofOption : Option Json → Json
  | some v => v
  | none => null

/-- The value of the last member with a name, if this is an object that has one. -/
def member? (name : String) : Json → Option Json
  | object members => members.reverse.lookup (some name)
  | _ => none

end Json

end CurvePnl
