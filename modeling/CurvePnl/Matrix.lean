import CurvePnl.Series.Basic
import CurvePnl.Tenor

/-! # The matrix of an attribution

An attribution has one column per curve node: the tenor that it is keyed by, a label for people,
and the series of its profit and loss. The total adds up the columns date by date.
-/

namespace CurvePnl

/-- The profit and loss of one curve node. -/
structure Column (α : Type) where
  key : Tenor
  label : String
  series : DateSeries α

/-- One column per curve node, in the order of the nodes. -/
structure PnlMatrix (α : Type) where
  columns : List (Column α)

/-- The samples with a value added on its date, which starts from zero if it is new. -/
def addOnDate [Quantity α] (d : Date) (v : α) : List (Sample α) → List (Sample α)
  | [] => [(d, Quantity.zero + v)]
  | a :: rest =>
    if d < a.1 then (d, Quantity.zero + v) :: a :: rest
    else if a.1 < d then a :: addOnDate d v rest
    else (a.1, a.2 + v) :: rest

theorem date_of_mem_addOnDate [Quantity α] {d : Date} {v : α} {l : List (Sample α)}
    {b : Sample α} (h : b ∈ addOnDate d v l) : b.1 = d ∨ ∃ a ∈ l, a.1 = b.1 := by
  induction l with
  | nil => simp [addOnDate] at h; simp [h]
  | cons a rest ih =>
    unfold addOnDate at h
    split at h
    · rcases List.mem_cons.1 h with rfl | h
      · exact .inl rfl
      · exact .inr ⟨b, h, rfl⟩
    · split at h
      · rcases List.mem_cons.1 h with rfl | h
        · exact .inr ⟨b, List.mem_cons_self, rfl⟩
        · rcases ih h with hd | ⟨c, hc, hd⟩
          · exact .inl hd
          · exact .inr ⟨c, List.mem_cons_of_mem _ hc, hd⟩
      · rcases List.mem_cons.1 h with rfl | h
        · exact .inr ⟨a, List.mem_cons_self, rfl⟩
        · exact .inr ⟨b, List.mem_cons_of_mem _ h, rfl⟩

theorem increasing_addOnDate [Quantity α] (d : Date) (v : α) {l : List (Sample α)}
    (increasing : l.Pairwise fun a b => a.1 < b.1) :
    (addOnDate d v l).Pairwise fun a b => a.1 < b.1 := by
  induction l with
  | nil => exact List.pairwise_singleton _ _
  | cons a rest ih =>
    obtain ⟨head, tail⟩ := List.pairwise_cons.1 increasing
    unfold addOnDate
    split
    · rename_i before
      refine .cons ?_ increasing
      intro b hb
      rcases List.mem_cons.1 hb with rfl | hb
      · exact before
      · exact Date.lt_trans before (head b hb)
    · split
      · rename_i after
        refine .cons ?_ (ih tail)
        intro b hb
        rcases date_of_mem_addOnDate hb with hd | ⟨c, hc, hd⟩
        · rw [hd]; exact after
        · rw [← hd]; exact head c hc
      · exact .cons head tail

namespace DateSeries

/-- The totals with all samples of one more series added. -/
def addAll [Quantity α] (totals s : DateSeries α) : DateSeries α :=
  s.samples.foldl (fun t a => ⟨addOnDate a.1 a.2 t.samples, increasing_addOnDate _ _ t.increasing⟩)
    totals

end DateSeries

namespace PnlMatrix

/-- The matrix of keys, labels and series, which must be equally many. -/
def new (keys : List Tenor) (labels : List String) (series : List (DateSeries α)) :
    Except ValueError (PnlMatrix α) :=
  if keys.length ≠ labels.length then
    .error (.lengthMismatch .keysAndLabels keys.length labels.length)
  else if keys.length ≠ series.length then
    .error (.lengthMismatch .keysAndColumns keys.length series.length)
  else .ok ⟨(keys.zip (labels.zip series)).map fun (key, label, s) => ⟨key, label, s⟩⟩

/-- The matrix whose labels are its keys. -/
def keyed (keys : List Tenor) (series : List (DateSeries α)) : Except ValueError (PnlMatrix α) :=
  new keys (keys.map Tenor.text) series

def keys (m : PnlMatrix α) : List Tenor := m.columns.map (·.key)

def labels (m : PnlMatrix α) : List String := m.columns.map (·.label)

def series (m : PnlMatrix α) : List (DateSeries α) := m.columns.map (·.series)

def size (m : PnlMatrix α) : Nat := m.columns.length

def isEmpty (m : PnlMatrix α) : Bool := m.columns.isEmpty

/-- The series of the first column with a key. -/
def seriesFor? (m : PnlMatrix α) (key : Tenor) : Option (DateSeries α) :=
  (m.columns.find? (·.key == key)).map (·.series)

/-- The sum of the columns on every date that any of them samples, added in column order. -/
def total [Quantity α] (m : PnlMatrix α) : DateSeries α :=
  m.series.foldl DateSeries.addAll .empty

end PnlMatrix

end CurvePnl
