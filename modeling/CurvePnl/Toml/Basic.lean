import CurvePnl.Json.Basic

/-! # TOML documents

A document is a table of keys and values. How a table came about decides what may be added to it:
a table in braces is closed, a table with a header takes no dotted keys from elsewhere and no
second header, a table that only a longer header mentions may get a header of its own, and a table
made by dotted keys takes more of them.
-/

namespace CurvePnl

/-- How a table came about. -/
inductive TableKind where
  | braces
  | header
  | mentioned
  | dotted
  deriving Repr, DecidableEq

/-- A TOML value. Dates, times and the names of infinities and of not-a-number keep their text. -/
inductive Toml where
  | string (s : String)
  | integer (n : Int)
  | float (n : Numeral)
  | special (name : String)
  | boolean (b : Bool)
  | dateTime (s : String)
  | array (items : List Toml)
  | table (kind : TableKind) (entries : List (String × Toml))
  /-- The tables under a header in double brackets. -/
  | tables (elements : List (List (String × Toml)))
  deriving Repr

namespace Toml

/-- One statement of a document. -/
inductive Statement where
  | header (path : List String)
  | element (path : List String)
  | entry (path : List String) (key : String) (value : Toml)
  deriving Repr

/-- The entries with the value of a key replaced. -/
def replace (key : String) (v : Toml) (entries : List (String × Toml)) : List (String × Toml) :=
  entries.map fun (k, w) => if k = key then (k, v) else (k, w)

/-- Puts a value under a dotted key. Tables on the way are made where they are missing. The table
that takes the value must be made by dotted keys itself, or be the one where the path starts. -/
def put (takes : Bool) (entries : List (String × Toml)) (path : List String) (key : String)
    (v : Toml) : Option (List (String × Toml)) :=
  match path with
  | [] => if takes && (entries.lookup key).isNone then some (entries ++ [(key, v)]) else none
  | k :: path =>
    match entries.lookup k with
    | none => (put true [] path key v).map fun sub => entries ++ [(k, table .dotted sub)]
    | some (table .dotted sub) =>
      (put true sub path key v).map fun sub => replace k (table .dotted sub) entries
    | some (table .mentioned sub) =>
      (put false sub path key v).map fun sub => replace k (table .mentioned sub) entries
    | some (tables elements) =>
      (put false (elements.getLastD []) path key v).map fun sub =>
        replace k (tables (elements.dropLast ++ [sub])) entries
    | some _ => none

/-- Follows the path of a header to the table around its last key, and changes that table. Tables
on the way are made where they are missing; of several under one header the last is meant. -/
def follow (change : List (String × Toml) → Option (List (String × Toml))) :
    List String → List (String × Toml) → Option (List (String × Toml))
  | [], entries => change entries
  | k :: path, entries =>
    match entries.lookup k with
    | none => (follow change path []).map fun sub => entries ++ [(k, table .mentioned sub)]
    | some (table .braces _) => none
    | some (table kind sub) =>
      (follow change path sub).map fun sub => replace k (table kind sub) entries
    | some (tables elements) =>
      (follow change path (elements.getLastD [])).map fun sub =>
        replace k (tables (elements.dropLast ++ [sub])) entries
    | some _ => none

/-- Gives a table its header. -/
def openTable (key : String) (entries : List (String × Toml)) : Option (List (String × Toml)) :=
  match entries.lookup key with
  | none => some (entries ++ [(key, table .header [])])
  | some (table .mentioned sub) =>
    some (entries.filter (·.1 != key) ++ [(key, table .header sub)])
  | some _ => none

/-- Adds a table under a header in double brackets. -/
def openElement (key : String) (entries : List (String × Toml)) :
    Option (List (String × Toml)) :=
  match entries.lookup key with
  | none => some (entries ++ [(key, tables [[]])])
  | some (tables elements) => some (replace key (tables (elements ++ [[]])) entries)
  | some _ => none

/-- Builds the table of a document, with the path of the header that the next entries belong
to. -/
def build (root : List (String × Toml)) (current : List String) :
    List Statement → Option (List (String × Toml))
  | [] => some root
  | .header path :: rest => do
    let key ← path.getLast?
    build (← follow (openTable key) path.dropLast root) path rest
  | .element path :: rest => do
    let key ← path.getLast?
    build (← follow (openElement key) path.dropLast root) path rest
  | .entry path key v :: rest => do
    build (← follow (fun entries => put true entries path key v) current root) current rest

mutual

/-- The JSON value that stands for a value. What JSON cannot write becomes an object that tells
its kind. -/
def toJson : Toml → Json
  | string s => .text s
  | integer n => .ofInt n
  | float n => .number n
  | special name => .ofMembers [("float", .text name)]
  | boolean b => .bool b
  | dateTime s => .ofMembers [("datetime", .text s)]
  | array items => .array (itemsToJson items)
  | table _ entries => .object (entriesToJson entries)
  | tables elements => .array (elementsToJson elements)

def itemsToJson : List Toml → List Json
  | [] => []
  | v :: vs => toJson v :: itemsToJson vs

def entriesToJson : List (String × Toml) → List (Option String × Json)
  | [] => []
  | (key, v) :: rest => (some key, toJson v) :: entriesToJson rest

def elementsToJson : List (List (String × Toml)) → List Json
  | [] => []
  | entries :: rest => .object (entriesToJson entries) :: elementsToJson rest

end

end Toml

end CurvePnl
