import CurvePnl.Decimal.Scaled
import CurvePnl.Halt
import CurvePnl.Json.Reader

/-! # Decoding JSON

A decoder turns a value into what it stands for, or refuses it. A record may be written as an
object, with its fields in any order and others beside them, or as the array of its fields in
their declared order. What is wrong is found in the order of the text, so an abort in front of a
fault still aborts.
-/

namespace CurvePnl

/-- The outcome of decoding. -/
abbrev Decoded (α : Type) := Except (Halt Unit) α

namespace Decode

def refuse : Decoded α := .error (.failed ())

def ofOption : Option α → Decoded α
  | some a => .ok a
  | none => refuse

/-- A result whose error is a refusal. -/
def ofExcept : Except ε α → Decoded α
  | .ok a => .ok a
  | .error _ => refuse

/-- A result whose error is a refusal and whose abort is kept. -/
def ofHalting : Except (Halt ε) α → Decoded α
  | .ok a => .ok a
  | .error h => .error (h.map fun _ => ())

def text : Json → Decoded String
  | .string (some s) => .ok s
  | _ => refuse

def bool : Json → Decoded Bool
  | .bool b => .ok b
  | _ => refuse

/-- A number; none that is too large for a double. -/
def number : Json → Decoded Float
  | .number n => ofOption n.scaled?
  | _ => refuse

def list (item : Json → Decoded α) : Json → Decoded (List α)
  | .array items => items.mapM item
  | _ => refuse

/-- Null for no value. -/
def optional (value : Json → Decoded α) : Json → Decoded (Option α)
  | .null => .ok none
  | v => (value v).map some

/-- One of several names, or an object with that name as its only member, whose value says that
nothing belongs to the name. -/
def choice (isUnit : Json → Bool) (ofName? : String → Option α) : Json → Decoded α
  | .string (some s) => ofOption (ofName? s)
  | .object [(some s, v)] => if isUnit v then ofOption (ofName? s) else refuse
  | _ => refuse

/-- The value that says in JSON that nothing belongs to a name. -/
def isNull : Json → Bool
  | .null => true
  | _ => false

/-- A field of a record. -/
structure Field where
  name : String
  /-- Whether a value will do for the field. -/
  check : Json → Decoded Unit
  /-- Whether an array may end before the field. -/
  trailing : Bool

/-- A field that decodes with `value`. -/
def field (name : String) (value : Json → Decoded α) : Field :=
  ⟨name, fun v => (value v).map fun _ => (), false⟩

/-- A field that decodes with `value` and that an array may leave out at its end. -/
def trailingField (name : String) (value : Json → Decoded α) : Field :=
  { field name value with trailing := true }

/-- The known members of an object, each checked where it stands. No field may be repeated. -/
def membersOf (fields : List Field) :
    List (String × Json) → List (Option String × Json) → Decoded (List (String × Json))
  | known, [] => .ok known
  | _, (none, _) :: _ => refuse
  | known, (some name, v) :: rest =>
    match fields.find? (·.name == name) with
    | none => membersOf fields known rest
    | some f =>
      if (known.lookup name).isSome then refuse
      else do
        f.check v
        membersOf fields (known ++ [(name, v)]) rest

/-- The items of an array as fields in their declared order. -/
def itemsOf : List Field → List Json → Decoded (List (String × Json))
  | [], [] => .ok []
  | [], _ :: _ => refuse
  | f :: fields, [] => if f.trailing then itemsOf fields [] else refuse
  | f :: fields, v :: vs => do
    f.check v
    return (f.name, v) :: (← itemsOf fields vs)

/-- The fields of a record with their values. -/
def record (fields : List Field) : Json → Decoded (List (String × Json))
  | .object members => membersOf fields [] members
  | .array items => itemsOf fields items
  | _ => refuse

/-- The value of a field that must be there. -/
def required (known : List (String × Json)) (name : String) (value : Json → Decoded α) :
    Decoded α :=
  match known.lookup name with
  | some v => value v
  | none => refuse

/-- The value of a field, or `absent` if it is missing. -/
def defaulted (known : List (String × Json)) (name : String) (value : Json → Decoded α)
    (absent : α) : Decoded α :=
  match known.lookup name with
  | some v => value v
  | none => .ok absent

/-- Decodes a text. The part that can be read is decoded before the rest is missed. -/
def ofText (value : Json → Decoded α) (s : String) : Decoded α := do
  let (v, whole) := Json.readText s
  let a ← value (← ofOption v)
  if whole then return a else refuse

/-- What is made of a decoded value is made of a decoded text. -/
theorem ofText_map {value : Json → Decoded α} {value' : Json → Decoded β} {f : α → β}
    (same : ∀ v, value' v = f <$> value v) (s : String) :
    ofText value' s = f <$> ofText value s := by
  unfold ofText
  obtain ⟨read, whole⟩ := Json.readText s
  cases read with
  | none => rfl
  | some v =>
      change (value' v >>= _) = f <$> (value v >>= _)
      rw [same]
      cases value v with
      | error h => rfl
      | ok a => cases whole <;> rfl

end Decode

end CurvePnl
