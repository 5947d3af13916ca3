import CurvePnl.Matrix
import Std.Data.HashMap

/-! # Buckets

Samples that arrive one at a time are gathered per key. Buckets stand in the order in which their
keys were first seen, and an index finds the bucket of a key. At the end the buckets are sorted by
key; only their order changes then, and a key keeps its samples.
-/

namespace CurvePnl

/-- One growing series per key. -/
structure BucketCollection (κ : Type) (α : Type) [BEq κ] [Hashable κ] where
  buckets : Array (κ × DateSeries α)
  index : Std.HashMap κ Nat

namespace BucketCollection

variable {κ α : Type} [BEq κ] [Hashable κ]

def empty : BucketCollection κ α := ⟨#[], ∅⟩

/-- The position of the bucket of a key, with a new bucket at the end for a new key. -/
def locate (c : BucketCollection κ α) (key : κ) : Nat × BucketCollection κ α :=
  match c.index[key]? with
  | some i => (i, c)
  | none =>
    let i := c.buckets.size
    (i, ⟨c.buckets.push (key, .empty), c.index.insert key i⟩)

/-- Adds a sample to the bucket of its key. The sample must be later than all that the bucket
holds; otherwise the collection is given back with the error. -/
def add (c : BucketCollection κ α) (d : Date) (key : κ) (v : α) :
    Except ValueError Unit × BucketCollection κ α :=
  let (i, c) := c.locate key
  match c.buckets[i]? with
  | none => (.ok (), c)
  | some (k, s) =>
    match s.push d v with
    | .error e => (.error e, c)
    | .ok s => (.ok (), { c with buckets := c.buckets.set! i (k, s) })

/-- The samples gathered for a key. -/
def get? (c : BucketCollection κ α) (key : κ) : Option (DateSeries α) := do
  let i ← c.index[key]?
  let (_, s) ← c.buckets[i]?
  return s

def size (c : BucketCollection κ α) : Nat := c.buckets.size

def isEmpty (c : BucketCollection κ α) : Bool := c.buckets.isEmpty

def sortedKeys [Ord κ] (c : BucketCollection κ α) : List κ :=
  (c.buckets.toList.map (·.1)).mergeSort fun a b => (compare a b).isLE

/-- The keys with their series, sorted by key. -/
def sortedSeries [Ord κ] (c : BucketCollection κ α) : List (κ × DateSeries α) :=
  c.buckets.toList.mergeSort fun a b => (compare a.1 b.1).isLE

end BucketCollection

/-- The buckets of tenors as a matrix with one column per bucket, in tenor order. -/
def BucketCollection.toMatrix {α : Type} (c : BucketCollection Tenor α) : PnlMatrix α :=
  ⟨c.sortedSeries.map fun (key, s) => ⟨key, key.text, s⟩⟩

end CurvePnl
