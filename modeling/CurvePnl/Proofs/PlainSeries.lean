import CurvePnl.JsonForm
import CurvePnl.Proofs.HalvingSearch
import CurvePnl.Proofs.Returns
import Std.Data.TreeMap

/-! # Series as they are stored

A series can be stored as two lists, of dates and of values. Then nothing says that the lists are
equally long or that the dates increase, and most operations build their result without looking:
they cut both lists at the same places, pair neighbours, or turn a map back into two lists. A value
is found by halving.
-/

namespace CurvePnl

/-- The position of the last element that satisfies `p`. -/
def lastIdx? {β : Type} (p : β → Bool) : List β → Option Nat
  | [] => none
  | b :: rest =>
    match lastIdx? p rest with
    | some i => some (i + 1)
    | none => if p b then some 0 else none

/-- Dates and values side by side. -/
structure PlainSeries (α : Type) where
  dates : List Date
  values : List α

namespace PlainSeries

variable {α : Type}

def pairs (p : PlainSeries α) : List (Sample α) := p.dates.zip p.values

def empty : PlainSeries α := ⟨[], []⟩

/-- The dates and values of samples, whatever their order. -/
def unzip (l : List (Sample α)) : PlainSeries α := ⟨l.map (·.1), l.map (·.2)⟩

/-- The lists as they are, if they are equally long and no date is followed by another that is not
later. -/
def new (dates : List Date) (values : List α) : Except ValueError (PlainSeries α) :=
  if dates.length = values.length then
    match (dates.zip dates.tail).find? fun w => ! decide (w.1 < w.2) with
    | some (previous, next) => .error (.unorderedSeries previous next)
    | none => .ok ⟨dates, values⟩
  else .error (.lengthMismatch .datesAndValues dates.length values.length)

def ofPairs (l : List (Sample α)) : Except ValueError (PlainSeries α) :=
  new (l.map (·.1)) (l.map (·.2))

def valueOn? (p : PlainSeries α) (d : Date) : Option α :=
  match searchBy (compare · d) p.dates with
  | .ok i => p.values[i]?
  | .error _ => none

/-- What stands from position `first` on, and before position `last`. -/
def slice (p : PlainSeries α) (first last : Nat) : PlainSeries α :=
  ⟨(p.dates.take last).drop first, (p.values.take last).drop first⟩

def tailFrom (p : PlainSeries α) (n : Nat) : PlainSeries α :=
  p.slice (min n p.dates.length) p.dates.length

def between (p : PlainSeries α) (first last : Date) : PlainSeries α :=
  let low := partitionPoint (· < first) p.dates
  let high := partitionPoint (· ≤ last) p.dates
  p.slice low (max high low)

def trimTo (p : PlainSeries α) (start : Date) : PlainSeries α :=
  match lastIdx? (· < start) p.dates with
  | some i => p.tailFrom i
  | none => p

/-- The series with one more sample at its end, if that is later than the last one. -/
def push (p : PlainSeries α) (d : Date) (v : α) : Except ValueError (PlainSeries α) :=
  match p.dates.getLast? with
  | some last =>
    if last < d then .ok ⟨p.dates ++ [d], p.values ++ [v]⟩ else .error (.unorderedSeries last d)
  | none => .ok ⟨p.dates ++ [d], p.values ++ [v]⟩

section Quantities

variable [Quantity α]

def scale (p : PlainSeries α) (factor : α) : PlainSeries α := ⟨p.dates, p.values.map (· * factor)⟩

def reciprocal (p : PlainSeries α) : Except ValueError (PlainSeries α) :=
  match p.pairs.find? fun a => Quantity.isZero a.2 with
  | some a => .error (.zeroSample a.1)
  | none => .ok ⟨p.dates, p.values.map (Quantity.one / ·)⟩

/-- The product of a sample with the value of `other` on its date. -/
def factor (other : PlainSeries α) (context : String) (a : Sample α) : Except ValueError α :=
  match other.valueOn? a.1 with
  | some factor => .ok (a.2 * factor)
  | none => .error (.misaligned a.1 context)

def multiplyAligned (p other : PlainSeries α) (context : String) :
    Except ValueError (PlainSeries α) := do
  let values ← p.pairs.mapM (other.factor context)
  return ⟨p.dates, values⟩

def multiplyCommon (p other : PlainSeries α) : PlainSeries α :=
  unzip (p.pairs.filterMap fun a => (other.valueOn? a.1).map fun factor => (a.1, a.2 * factor))

/-- Adds every sample to the total of its date, which begins with zero. -/
def addAll (totals : Std.TreeMap Date α) (p : PlainSeries α) : Std.TreeMap Date α :=
  p.pairs.foldl (fun t a => t.alter a.1 fun v => some (v.getD Quantity.zero + a.2)) totals

def total (columns : List (PlainSeries α)) : PlainSeries α :=
  unzip (columns.foldl addAll ∅).toList

/-- Neighbouring dates with the values on them. -/
def windows (p : PlainSeries α) : List ((Date × Date) × α × α) :=
  (p.dates.zip p.dates.tail).zip (p.values.zip p.values.tail)

/-- The move within a window. -/
def move (kind : ReturnKind) (w : (Date × Date) × α × α) : Except SourceError (Sample α) :=
  if kind = .relative ∧ Quantity.isZero w.2.1 = true then .error (.zeroObservation w.1.1)
  else .ok (w.1.2, kind.move w.2.1 w.2.2)

def returns (kind : ReturnKind) (p : PlainSeries α) : Except SourceError (PlainSeries α) := do
  let moves ← p.windows.mapM (move kind)
  (ofPairs moves).mapError .ofValueError

end Quantities

def ofJson (v : Json) : Decoded (PlainSeries Float) := do
  let dates := Decode.list Date.ofJson
  let values := Decode.list Decode.number
  let known ← Decode.record [Decode.field "dates" dates, Decode.field "values" values] v
  Decode.ofExcept
    (new (← Decode.required known "dates" dates) (← Decode.required known "values" values))

end PlainSeries

/-- The series as it is stored. -/
def DateSeries.plain {α : Type} (s : DateSeries α) : PlainSeries α := ⟨s.dates, s.values⟩

end CurvePnl
