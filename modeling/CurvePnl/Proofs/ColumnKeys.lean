import CurvePnl.Proofs.ImpliedRun
import CurvePnl.Proofs.QuotedRun

/-! # The keys of columns

A series is looked up by its key, and the first column with that key answers. So all columns can be
reached only if no key is repeated. The keys of an implied curve are the tenors of its buckets,
which differ. Those of a quoted curve are the maturities of its specification, which nothing
compares.
-/

namespace CurvePnl

variable {α : Type}

namespace PnlMatrix

/-- The place of the column that a key leads to. -/
def placeOf? (m : PnlMatrix α) (key : Tenor) : Option Nat := m.columns.findIdx? (·.key == key)

variable {m : PnlMatrix α}

theorem seriesFor?_eq (m : PnlMatrix α) (key : Tenor) :
    m.seriesFor? key = (m.placeOf? key).bind (m.series[·]?) := by
  unfold seriesFor? placeOf? series
  induction m.columns with
  | nil => rfl
  | cons column rest ih =>
      rw [List.find?_cons, List.findIdx?_cons]
      cases column.key == key with
      | true => rfl
      | false =>
          simp only [Bool.false_eq_true, if_false, ih, Option.bind_map]
          rfl

theorem nodup_keys_iff :
    m.keys.Nodup ↔
      ∀ (i : Nat) column, m.columns[i]? = some column → m.placeOf? column.key = some i := by
  rw [keys, List.Nodup, List.pairwise_map, List.pairwise_iff_getElem]
  constructor
  · intro distinct i column here
    obtain ⟨inside, rfl⟩ := List.getElem?_eq_some_iff.mp here
    refine List.findIdx?_eq_some_iff_getElem.mpr ⟨inside, beq_self_eq_true _, ?_⟩
    intro k before
    rw [beq_iff_eq]
    exact distinct k i (Nat.lt_trans before inside) inside before
  · intro reached i k hi hk before same
    -- A repeated key would lead to both places.
    have first := reached i _ (List.getElem?_eq_getElem hi)
    have second := reached k _ (List.getElem?_eq_getElem hk)
    rw [same, second] at first
    cases first
    exact Nat.lt_irrefl _ before

theorem seriesFor?_of_nodup (distinct : m.keys.Nodup) {i : Nat} {key : Tenor}
    (here : m.keys[i]? = some key) : m.seriesFor? key = m.series[i]? := by
  rw [keys, List.getElem?_map, Option.map_eq_some_iff] at here
  obtain ⟨column, place, rfl⟩ := here
  rw [seriesFor?_eq, nodup_keys_iff.mp distinct i column place]
  rfl

end PnlMatrix

variable [Quantity α] {s : Sources α} {request : AttributionRequest} {context : ValuationContext}
  {tokens : Tokens} {a : Attribution α}

theorem QuotedPlan.keys_eq_maturities {p : QuotedPlan α}
    (count : p.entry.vector.length = p.specification.nodes.length) {matrix : PnlMatrix α}
    (worked : List.Forall₂ (fun q column => p.NodePnl s request q.1 q.2 column)
      (p.specification.nodes.zip p.entry.vector) matrix.columns) :
    matrix.keys = p.specification.nodes.map (·.maturity) := by
  have keyed : List.Forall₂ (fun q column => q.1.maturity = column.key)
      (p.specification.nodes.zip p.entry.vector) matrix.columns := by
    refine worked.imp ?_
    rintro q column ⟨history, levels, moves, returned, converted, taken, key, label, series⟩
    exact key.symm
  have nodes : (p.specification.nodes.zip p.entry.vector).map (·.1) = p.specification.nodes :=
    List.map_fst_zip (Nat.le_of_eq count.symm)
  rw [PnlMatrix.keys_eq_map keyed, ← congrArg (List.map CurveNode.maturity) nodes, List.map_map]
  rfl

namespace Sources

theorem exists_keys_of_quoted {curve : CurveName} (quoted : request.curve = .quoted curve)
    (ok : (s.run request context tokens).1 = .ok a) :
    ∃ specification, s.specification curve context.date = .ok specification ∧
      a.matrix.keys = specification.nodes.map (·.maturity) := by
  rw [run_fst_eq_ok, quoted] at ok
  obtain ⟨p, resolved, -, worked⟩ := s.outcome_attributeQuoted_eq_ok.mp ok
  exact ⟨p.specification, resolved.specification,
    QuotedPlan.keys_eq_maturities resolved.count worked⟩

theorem ascending_keys_of_implied {curve : CurveName} {construction : ConstructionName}
    (implied : request.curve = .implied curve construction)
    (ok : (s.run request context tokens).1 = .ok a) : Ascending a.matrix.keys := by
  rw [run_fst_eq_ok, implied] at ok
  obtain ⟨p, resolved, -, worked⟩ := s.outcome_attributeImplied_eq_ok.mp ok
  rw [ImpliedPlan.keys_eq_tenors resolved.count worked]
  exact resolved.ascending

/-- The keys of a result are distinct on an implied curve, and on a quoted curve exactly if the
maturities of its specification are. Distinct keys are those that lead to every column. -/
theorem run_keys_distinct_iff (ok : (s.run request context tokens).1 = .ok a) :
    (∀ curve construction, request.curve = .implied curve construction → a.matrix.keys.Nodup) ∧
    (∀ curve, request.curve = .quoted curve →
      ∃ specification, s.specification curve context.date = .ok specification ∧
        (a.matrix.keys.Nodup ↔ (specification.nodes.map (·.maturity)).Nodup)) ∧
    (a.matrix.keys.Nodup ↔ ∀ (i : Nat) column, a.matrix.columns[i]? = some column →
      a.matrix.placeOf? column.key = some i) ∧
    (a.matrix.keys.Nodup → ∀ (i : Nat) key, a.matrix.keys[i]? = some key →
      a.matrix.seriesFor? key = a.matrix.series[i]?) := by
  refine ⟨?_, ?_, PnlMatrix.nodup_keys_iff, fun distinct i key =>
    PnlMatrix.seriesFor?_of_nodup distinct⟩
  · intro curve construction implied
    exact (ascending_keys_of_implied implied ok).nodup
  · intro curve quoted
    obtain ⟨specification, specified, keys⟩ := exists_keys_of_quoted quoted ok
    exact ⟨specification, specified, by rw [keys]⟩

theorem run_keys_euroDeposits :
    mondayInDollars.curve = .quoted "EUR-OIS" ∧
      ∃ a, (euroDeposits.run mondayInDollars ⟨.monday, ⟨0⟩⟩ .none).1 = .ok a ∧
        a.matrix.keys.Nodup ∧ a.matrix.seriesFor? ⟨.years, 1⟩ = a.matrix.series[1]? := by
  obtain ⟨a, ok, keys⟩ : ∃ a, (euroDeposits.run mondayInDollars ⟨.monday, ⟨0⟩⟩ .none).1 = .ok a ∧
      a.matrix.keys = [⟨.months, 3⟩, ⟨.years, 1⟩] := ⟨_, rfl, by decide⟩
  obtain ⟨-, maturities, -, reached⟩ := run_keys_distinct_iff ok
  obtain ⟨specification, specified, distinct⟩ := maturities "EUR-OIS" rfl
  cases specified
  have distinct : a.matrix.keys.Nodup := distinct.mpr (by decide)
  exact ⟨rfl, a, ok, distinct, reached distinct 1 _ (by rw [keys]; rfl)⟩

/-- A curve with two nodes of one maturity. -/
def twinDeposits : Sources Float :=
  { euroDeposits with
    specification := fun curve _ =>
      .ok ⟨curve, [⟨"EUR3M", ⟨.months, 3⟩, none⟩, ⟨"EUR3M-FRA", ⟨.months, 3⟩, none⟩]⟩ }

/-- Not every result has distinct keys, and not every series is found by its key: of two nodes with
one maturity only the first is. -/
theorem not_forall_run_keys_distinct :
    ¬ (∀ (s : Sources Float) (request : AttributionRequest) (context : ValuationContext)
        (tokens : Tokens) (a : Attribution Float),
        (s.run request context tokens).1 = .ok a → a.matrix.keys.Nodup) ∧
      ¬ ∀ (s : Sources Float) (request : AttributionRequest) (context : ValuationContext)
        (tokens : Tokens) (a : Attribution Float) (i : Nat) (key : Tenor),
        (s.run request context tokens).1 = .ok a → a.matrix.keys[i]? = some key →
          a.matrix.seriesFor? key = a.matrix.series[i]? := by
  obtain ⟨a, ok, keys, values⟩ : ∃ a,
      (twinDeposits.run mondayInDollars ⟨.monday, ⟨0⟩⟩ .none).1 = .ok a ∧
        a.matrix.keys = [⟨.months, 3⟩, ⟨.months, 3⟩] ∧
        (a.matrix.seriesFor? ⟨.months, 3⟩).map DateSeries.values ≠
          a.matrix.series[1]?.map DateSeries.values := ⟨_, rfl, by decide, by decide +kernel⟩
  constructor
  · intro distinct
    have distinct := distinct _ _ _ _ a ok
    rw [keys] at distinct
    exact absurd distinct (by decide)
  · intro reached
    have same := reached _ _ _ _ a 1 ⟨.months, 3⟩ ok (by rw [keys]; rfl)
    exact values (by rw [same])

end Sources

end CurvePnl
