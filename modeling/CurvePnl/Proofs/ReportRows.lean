import CurvePnl.Proofs.ColumnSums
import CurvePnl.Proofs.Digits
import CurvePnl.Report.Attribution

/-! # What a printed report shows

The rows of a report follow the dates of the total, and every cell is looked up by itself. Read by
columns, the rows are the matrix again: the cells of a node that are not empty hold the samples of
its series. This rests on two facts: the total has all the dates of all nodes, and no value is
written as nothing. The lists of a report as a document hold the same samples.
-/

namespace CurvePnl

theorem Digit.text_ne_empty {ds : List Digit} (nonempty : ds ≠ []) : Digit.text ds ≠ "" := by
  simpa [Digit.text] using nonempty

theorem Numeral.text_ne_empty {n : Numeral} (whole : n.whole ≠ []) : n.text ≠ "" := by
  simp [Numeral.text, Digit.text_ne_empty whole]

theorem Layout.whole_spread_ne_nil (l : Layout) {ds : List Digit} (point : Int)
    (nonempty : ds ≠ []) : (l.spread ds point).1 ≠ [] := by
  unfold Layout.spread
  split
  · simp
  · have first : point ≠ 0 := by omega
    simp [nonempty, first]

theorem Layout.whole_finite_ne_nil (l : Layout) (negative : Bool) (mantissa : Nat)
    (exponent : Int) : (l.finite negative mantissa exponent).whole ≠ [] := by
  unfold Layout.finite
  split
  · simp
  · extract_lets s ds point fits e
    have nonempty : ds ≠ [] := Digit.ofNat_ne_nil _
    split
    · exact l.whole_spread_ne_nil point nonempty
    · simp [nonempty]

theorem plainText_ne_empty (x : Float) : plainText x ≠ "" := by
  unfold plainText
  split
  · simp
  · split <;> simp
  · exact Numeral.text_ne_empty (Layout.whole_finite_ne_nil _ _ _ _)

theorem fixedText_ne_empty (places : Nat) (x : Float) : fixedText places x ≠ "" := by
  unfold fixedText
  split
  · simp
  · split <;> simp
  · extract_lets kept ds padded split
    apply Numeral.text_ne_empty
    -- The zeros in front leave at least one digit for the whole part.
    have longer : kept < padded.length := by
      simp only [padded, List.length_append, List.length_replicate]
      omega
    have nonempty : padded ≠ [] := List.ne_nil_of_length_pos (by omega)
    have first : split ≠ 0 := Nat.sub_ne_zero_of_lt longer
    simp [nonempty, first]

theorem AttributionReport.valueText_ne_empty (places : Option Nat) (v : Float) :
    AttributionReport.valueText places v ≠ "" := by
  cases places with
  | none => exact plainText_ne_empty v
  | some places => exact fixedText_ne_empty places v

/-- What a series has on increasing dates is its samples, if all its dates are among them. -/
theorem DateSeries.filterMap_valueOn? {α : Type} {s : DateSeries α} {dates : List Date}
    (increasing : dates.Pairwise (· < ·)) (covered : ∀ d ∈ s.dates, d ∈ dates) :
    (dates.filterMap fun d => (s.valueOn? d).map (d, ·)) = s.samples := by
  have found : (dates.filterMap fun d => (s.valueOn? d).map (d, ·)).Pairwise
      fun a b => a.1 < b.1 := by
    refine increasing.filterMap _ ?_
    intro d e before a first b second
    obtain ⟨v, -, rfl⟩ := Option.map_eq_some_iff.mp first
    obtain ⟨w, -, rfl⟩ := Option.map_eq_some_iff.mp second
    exact before
  have rebuilt : (⟨_, found⟩ : DateSeries α) = s := by
    apply ext_mem
    intro ⟨d, v⟩
    have sampled : (d, v) ∈ s.samples → d ∈ dates := fun member =>
      covered d (List.mem_map_of_mem member)
    simpa [valueOn?_eq_some_iff] using sampled
  exact congrArg samples rebuilt

/-- The cells of a column that are not empty, each behind the first cell of its row. -/
def filledCells (rows : List (List String)) (j : Nat) : List (String × String) :=
  rows.filterMap fun row =>
    match row[0]?, row[j]? with
    | some date, some text => if text = "" then none else some (date, text)
    | _, _ => none

namespace AttributionReport

/-- What the cell of a series shows on a date: its value if it has one, and otherwise nothing. -/
structure CellShows (write : Float → String) (s : DateSeries Float) (d : Date) (text : String) :
    Prop where
  value : ∀ v, s.valueOn? d = some v → text = write v
  empty_iff : text = "" ↔ d ∉ s.dates

/-- What a row shows on a date: one cell for the date, one for each node, and one for the total,
which is never empty. -/
structure RowShows (r : AttributionReport Float) (write : Float → String) (d : Date)
    (row : List String) : Prop where
  width : row.length = r.header.length ∧ r.header.length = r.matrix.columns.length + 2
  date : row[0]? = some d.text
  node : ∀ j c, r.matrix.columns[j]? = some c →
    ∃ text, row[j + 1]? = some text ∧ CellShows write c.series d text
  total : ∃ v, r.total.valueOn? d = some v ∧ row.getLast? = some (write v) ∧ write v ≠ ""

/-- A point of a list in the document has the date and the value of a cell behind its date. -/
def PointShows (write : Float → String) (point : Json) (filled : String × String) : Prop :=
  ∃ v, point = .ofMembers [("date", .text filled.1), ("pnl", .ofFloat v)] ∧ filled.2 = write v

/-- A list of points with the same samples as cells, one by one. -/
def ListShows (write : Float → String) (filled : List (String × String)) (list : Option Json) :
    Prop :=
  ∃ points, list = some (.array points) ∧ List.Forall₂ (PointShows write) points filled

/-- What rows show of a report, for a way to write values. There is one row for each date that some
node has, in increasing order. The cells of a node that are not empty, and those of the total, are
the samples that the document lists. -/
structure Shows (r : AttributionReport Float) (write : Float → String)
    (rows : List (List String)) : Prop where
  increasing : r.total.dates.Pairwise (· < ·)
  sampled : ∀ d, d ∈ r.total.dates ↔ ∃ c ∈ r.matrix.columns, d ∈ c.series.dates
  each_date : List.Forall₂ (r.RowShows write) r.total.dates rows
  nodes : ∃ buckets, r.toJson.member? "buckets" = some (.array buckets) ∧
    buckets.length = r.matrix.columns.length ∧
    ∀ j bucket, buckets[j]? = some bucket →
      ListShows write (filledCells rows (j + 1)) (bucket.member? "pnl")
  totals : ListShows write (filledCells rows (r.matrix.columns.length + 1))
    (r.toJson.member? "total")

theorem getElem?_columns_node {r : AttributionReport Float} {j : Nat} {c : Column Float}
    (node : r.matrix.columns[j]? = some c) : r.columns[j]? = some c.series := by
  obtain ⟨inside, rfl⟩ := List.getElem?_eq_some_iff.mp node
  simp [columns, PnlMatrix.series, List.getElem?_append, inside]

theorem getElem?_columns_total (r : AttributionReport Float) :
    r.columns[r.matrix.columns.length]? = some r.total := by
  simp [columns, PnlMatrix.series]

section Rows

variable {write : Float → String} (written : ∀ v, write v ≠ "") (r : AttributionReport Float)

include written

theorem cellShows_cell (s : DateSeries Float) (d : Date) : CellShows write s d (cell write s d) := by
  unfold cell
  cases value : s.valueOn? d with
  | none => exact ⟨by simp [value], by simp [DateSeries.mem_dates_iff, value]⟩
  | some v => exact ⟨by simp [value], by simp [DateSeries.mem_dates_iff, value, written]⟩

theorem rowShows_of_mem {d : Date} (sampled : d ∈ r.total.dates) :
    r.RowShows write d (d.text :: r.columns.map fun s => cell write s d) where
  width := by simp [header, columns, PnlMatrix.labels, PnlMatrix.series]
  date := rfl
  node := by
    intro j c node
    refine ⟨cell write c.series d, ?_, cellShows_cell written _ _⟩
    simp [getElem?_columns_node node]
  total := by
    obtain ⟨v, value⟩ := DateSeries.mem_dates_iff.mp sampled
    refine ⟨v, value, ?_, written v⟩
    rw [List.getLast?_eq_getElem?]
    simp [columns, cell, value]

theorem filledCells_rows {j : Nat} {s : DateSeries Float} (column : r.columns[j]? = some s)
    (covered : ∀ d ∈ s.dates, d ∈ r.total.dates) :
    filledCells (r.rows write) (j + 1) = s.samples.map fun a => (a.1.text, write a.2) := by
  rw [← DateSeries.filterMap_valueOn? (PlainSeries.pairwise_plain r.total) covered,
    List.map_filterMap, filledCells, rows, List.filterMap_map]
  congr
  funext d
  cases value : s.valueOn? d <;> simp [column, cell, value, written]

theorem listShows_rows {j : Nat} {s : DateSeries Float} (column : r.columns[j]? = some s)
    (covered : ∀ d ∈ s.dates, d ∈ r.total.dates) :
    ListShows write (filledCells (r.rows write) (j + 1)) (some (pointsToJson s)) := by
  refine ⟨_, rfl, ?_⟩
  rw [filledCells_rows written r column covered, List.forall₂_map_left_iff,
    List.forall₂_map_right_iff, List.forall₂_same]
  intro a _
  exact ⟨a.2, rfl, rfl⟩

theorem shows_rows : r.Shows write (r.rows write) where
  increasing := PlainSeries.pairwise_plain r.total
  sampled _ := PnlMatrix.mem_dates_total
  each_date := by
    rw [rows, List.forall₂_map_right_iff, List.forall₂_same]
    intro d sampled
    exact rowShows_of_mem written r sampled
  nodes := by
    refine ⟨r.matrix.columns.map columnToJson, rfl, by simp, ?_⟩
    intro j bucket listed
    obtain ⟨c, node, rfl⟩ : ∃ c, r.matrix.columns[j]? = some c ∧ columnToJson c = bucket := by
      simpa using listed
    apply listShows_rows written r (getElem?_columns_node node)
    intro d sampled
    exact PnlMatrix.mem_dates_total.mpr ⟨c, List.mem_of_getElem? node, sampled⟩
  totals := listShows_rows written r (getElem?_columns_total r) fun _ sampled => sampled

end Rows

theorem rows?_eq_none_iff {r : AttributionReport Float} {places : Option Nat} :
    r.rows? places = none ↔
      (∃ c ∈ r.matrix.columns, ∃ d, d ∈ c.series.dates) ∧ ∃ n ∈ places, mostPlaces < n := by
  have nonempty : r.isEmpty = false ↔ ∃ c ∈ r.matrix.columns, ∃ d, d ∈ c.series.dates := by
    have sampled : r.isEmpty = false ↔ ∃ d, d ∈ r.total.dates := by
      rw [isEmpty, DateSeries.isEmpty, List.isEmpty_eq_false_iff_exists_mem]
      simp [DateSeries.dates]
    simp only [sampled, total, PnlMatrix.mem_dates_total]
    grind
  rw [← nonempty, rows?]
  cases places <;> simp

theorem rows_of_rows? {r : AttributionReport Float} {places : Option Nat}
    {rows : List (List String)} (written : r.rows? places = some rows) :
    rows = r.rows (valueText places) := by
  unfold rows? at written
  split at written
  · cases written
  · exact (Option.some.inj written).symm

end AttributionReport

/-- The cells of a table, row by row, the header first. -/
def TextTable.grid (columns : List TextColumn) (rows : Nat) : List (List String) :=
  columns.map (·.header) :: (List.range rows).map fun i => columns.map (·.cells.getD i "")

namespace AttributionReport

theorem grid_tableColumns (r : AttributionReport Float) :
    TextTable.grid r.tableColumns r.total.size = r.header :: r.rows (valueText (some 2)) := by
  have sizes : (r.matrix.labels ++ [totalHeader]).length = r.columns.length := by
    simp [columns, PnlMatrix.labels, PnlMatrix.series]
  have labelled := List.map_fst_zip (Nat.le_of_eq sizes)
  have shown := List.map_snd_zip (Nat.le_of_eq sizes.symm)
  have headers : r.tableColumns.map (·.header) = r.header := by
    simp [tableColumns, header, Function.comp_def, labelled]
  have cells {i : Nat} {d : Date} (here : r.total.dates[i]? = some d) :
      r.tableColumns.map (·.cells.getD i "") =
        d.text :: r.columns.map fun s => cell (valueText (some 2)) s d := by
    conv_rhs => rw [← shown]
    simp [tableColumns, here]
  rw [TextTable.grid, headers, rows]
  congr 1
  apply List.ext_getElem
  · simp [DateSeries.size, DateSeries.dates]
  · intro i _ inside
    have here := List.getElem?_eq_getElem (List.length_map _ ▸ inside)
    simpa using cells here

/-- The rows of a report are its matrix. There are none if a value has to be written with more
places than can be; otherwise there is one for each date that some node has, in increasing order,
with one cell for the date, one for each node and one for the total. A cell holds the value that its
series has on the date and is empty if there is none, which the total always has. Read by columns,
the cells that are not empty are the lists of the document. The file of comma-separated values and
the table consist of these rows. -/
theorem rows_show_matrix (request : AttributionRequest) (done : Attribution Float) :
    let r := new request done
    (∀ places : Option Nat,
      (r.rows? places = none ↔
        (∃ c ∈ done.matrix.columns, ∃ d, d ∈ c.series.dates) ∧ ∃ n ∈ places, mostPlaces < n) ∧
      ∀ rows, r.rows? places = some rows → r.Shows (valueText places) rows) ∧
    (∃ rows, r.rows? none = some rows ∧ r.print .csv = Csv.write (r.header :: rows)) ∧
    ∃ rows, r.rows? (some 2) = some rows ∧
      TextTable.grid r.tableColumns rows.length = r.header :: rows ∧
      r.print .table = "\n" ++ r.title ++ "\n" ++
        (if rows = [] then "No results." else TextTable.draw r.tableColumns rows.length) ++ "\n" := by
  intro r
  refine ⟨fun places => ⟨rows?_eq_none_iff, ?shown⟩, ?csv, ?table⟩
  case shown =>
    intro rows written
    rw [rows_of_rows? written]
    exact shows_rows (valueText_ne_empty places) r
  case csv => exact ⟨r.rows (valueText none), by simp [rows?], rfl⟩
  case table =>
    have size : (r.rows (valueText (some 2))).length = r.total.size := by
      simp [rows, DateSeries.dates, DateSeries.size]
    refine ⟨r.rows (valueText (some 2)), by simp [rows?, mostPlaces], ?_, ?_⟩
    · rw [size, grid_tableColumns]
    · rw [print, table, size]
      simp [isEmpty, DateSeries.isEmpty, rows, DateSeries.dates]

/-- Two nodes, of which the second has no value on Friday. -/
def gappedPnl : Attribution Float :=
  ⟨⟨[⟨⟨.months, 3⟩, "3M", ⟨[(.friday, 0.5), (.monday, 1.25)], by decide⟩⟩,
    ⟨⟨.years, 1⟩, "1Y Swap", ⟨[(.monday, -0.25)], by decide⟩⟩]⟩, .usd⟩

def gappedReport : AttributionReport Float := new Sources.mondayInDollars gappedPnl

theorem rows_gappedReport :
    ∃ rows, gappedReport.rows? (some 2) = some rows ∧ rows.length = 2 ∧
      rows[0]?.bind (·[2]?) = some "" ∧ gappedReport.Shows (valueText (some 2)) rows :=
  ⟨_, rfl, rfl, rfl,
    ((rows_show_matrix Sources.mondayInDollars gappedPnl).1 (some 2)).2 _ rfl⟩

/-- A value cannot be written with 65536 places, so then there are no rows. -/
theorem not_forall_rows_written :
    ¬ ∀ (request : AttributionRequest) (done : Attribution Float) (places : Option Nat),
      ∃ rows, (new request done).rows? places = some rows ∧
        (new request done).Shows (valueText places) rows := by
  intro all
  obtain ⟨rows, written, -⟩ := all Sources.mondayInDollars gappedPnl (some 65536)
  have none : gappedReport.rows? (some 65536) = none := rfl
  exact absurd (written.symm.trans none) (by simp)

end AttributionReport

end CurvePnl
