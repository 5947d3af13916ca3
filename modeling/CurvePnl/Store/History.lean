import CurvePnl.Currency
import CurvePnl.Curve
import CurvePnl.JsonForm
import CurvePnl.Store.File

/-! # The store of histories

Histories of curve nodes and of exchange rates are loaded from rows of a series name, a date and a
value, in any order. A series may be sampled once on a date. The history of a pair stands under its
six letters.
-/

namespace CurvePnl

/-- One sample of a named series. -/
structure HistoryRow (α : Type) where
  id : String
  date : Date
  value : α

namespace HistoryRow

/-- A row of the columns `series_id`, `date` and `value`. -/
def ofRecord (v : Json) : Decoded (HistoryRow Float) := do
  let known ← Decode.record
    [Decode.field "series_id" Decode.text, Decode.field "date" Date.ofJson,
      Decode.field "value" Csv.number] v
  return {
    id := ← Decode.required known "series_id" Decode.text
    date := ← Decode.required known "date" Date.ofJson
    value := ← Decode.required known "value" Csv.number }

end HistoryRow

/-- The samples with one more at its place, unless its date is sampled already. -/
def insertSample? (d : Date) (v : α) : List (Sample α) → Option (List (Sample α))
  | [] => some [(d, v)]
  | a :: rest =>
    if d < a.1 then some ((d, v) :: a :: rest)
    else if a.1 < d then (insertSample? d v rest).map (a :: ·)
    else none

theorem date_of_mem_insertSample? {d : Date} {v : α} {l r : List (Sample α)}
    (h : insertSample? d v l = some r) {b : Sample α} (hb : b ∈ r) :
    b.1 = d ∨ ∃ a ∈ l, a.1 = b.1 := by
  induction l generalizing r with
  | nil => cases h; simp at hb; simp [hb]
  | cons a rest ih =>
    simp only [insertSample?] at h
    split at h
    · cases h
      rcases List.mem_cons.1 hb with rfl | hb
      · exact .inl rfl
      · exact .inr ⟨b, hb, rfl⟩
    · split at h
      · obtain ⟨t, ht, rfl⟩ := Option.map_eq_some_iff.1 h
        rcases List.mem_cons.1 hb with rfl | hb
        · exact .inr ⟨b, List.mem_cons_self, rfl⟩
        · rcases ih ht hb with hd | ⟨c, hc, hd⟩
          · exact .inl hd
          · exact .inr ⟨c, List.mem_cons_of_mem _ hc, hd⟩
      · cases h

theorem increasing_insertSample? {d : Date} {v : α} {l r : List (Sample α)}
    (h : insertSample? d v l = some r) (increasing : l.Pairwise fun a b => a.1 < b.1) :
    r.Pairwise fun a b => a.1 < b.1 := by
  induction l generalizing r with
  | nil => cases h; exact List.pairwise_singleton _ _
  | cons a rest ih =>
    obtain ⟨head, tail⟩ := List.pairwise_cons.1 increasing
    simp only [insertSample?] at h
    split at h
    · rename_i before
      cases h
      refine .cons ?_ increasing
      intro b hb
      rcases List.mem_cons.1 hb with rfl | hb
      · exact before
      · exact Date.lt_trans before (head b hb)
    · split at h
      · rename_i after
        obtain ⟨t, ht, rfl⟩ := Option.map_eq_some_iff.1 h
        refine .cons ?_ (ih ht tail)
        intro b hb
        rcases date_of_mem_insertSample? ht hb with hd | ⟨c, hc, hd⟩
        · rw [hd]; exact after
        · rw [← hd]; exact head c hc
      · cases h

namespace DateSeries

/-- The series with one more sample at its place, unless its date is sampled already. -/
def insert? (s : DateSeries α) (d : Date) (v : α) : Option (DateSeries α) :=
  match h : insertSample? d v s.samples with
  | none => none
  | some r => some ⟨r, increasing_insertSample? h s.increasing⟩

end DateSeries

/-- The named series of a file, each name once. -/
structure HistoryStore (α : Type) where
  series : List (String × DateSeries α)

namespace HistoryStore

def empty : HistoryStore α := ⟨[]⟩

def size (s : HistoryStore α) : Nat := s.series.length

def isEmpty (s : HistoryStore α) : Bool := s.series.isEmpty

/-- Adds a row to its series, which is new if it has no row yet. -/
def addRow? (row : HistoryRow α) :
    List (String × DateSeries α) → Option (List (String × DateSeries α))
  | [] => (DateSeries.empty.insert? row.date row.value).map fun s => [(row.id, s)]
  | (id, s) :: rest =>
    if id = row.id then (s.insert? row.date row.value).map fun s => (id, s) :: rest
    else (addRow? row rest).map ((id, s) :: ·)

def sampledTwice (row : HistoryRow α) : SourceError :=
  ⟨.unreadable, row.id ++ " sampled twice on " ++ row.date.text⟩

/-- The series of rows, added one after the other. -/
def addRows (s : HistoryStore α) : List (HistoryRow α) → Except SourceError (HistoryStore α)
  | [] => .ok s
  | row :: rest =>
    match addRow? row s.series with
    | none => .error (sampledTwice row)
    | some series => addRows ⟨series⟩ rest

/-- The store of decoded rows. Rows in front of a fault are looked at before the fault. -/
def ofRecords (r : Csv.Records (HistoryRow α)) : Except (Halt SourceError) (HistoryStore α) :=
  match addRows empty r.good, r.fault with
  | .error e, _ => .error (.failed e)
  | .ok _, some h => .error (h.map fun _ => .cannotDecode)
  | .ok s, none => .ok s

/-- Loads decoded rows in place of what the store holds; an error leaves it as it was, and so does
a missing file. -/
def reload (s : HistoryStore α) (file : Option (Csv.Records (HistoryRow α))) :
    Except (Halt SourceError) Unit × HistoryStore α :=
  match file with
  | none => (.ok (), s)
  | some r =>
    match ofRecords r with
    | .error h => (.error h, s)
    | .ok new => (.ok (), new)

/-- The samples of a named series within a window. -/
def history (s : HistoryStore α) (id : String) (window : DateWindow) :
    Except SourceError (DateSeries α) :=
  match s.series.lookup id with
  | some x => .ok (x.between window.first window.last)
  | none => .error ⟨.notFound, "no history for " ++ id⟩

def nodeHistory (s : HistoryStore α) (node : CurveNode) (window : DateWindow) :
    Except SourceError (DateSeries α) :=
  s.history node.key window

def fxHistory (s : HistoryStore α) (pair : CurrencyPair) (window : DateWindow) :
    Except SourceError (DateSeries α) :=
  s.history pair.code window

end HistoryStore

namespace FileEntry

/-- The rows of a file of histories, if there is a file. -/
def historyRows (f : FileEntry) : Option (Csv.Records (HistoryRow Float)) :=
  if f.isMissing then none else some (f.records 3 HistoryRow.ofRecord)

end FileEntry

end CurvePnl
