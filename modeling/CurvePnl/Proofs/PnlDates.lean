import CurvePnl.Proofs.Cuts
import CurvePnl.Proofs.ImpliedRun
import CurvePnl.Proofs.QuotedRun
import CurvePnl.Proofs.Returns
import CurvePnl.Proofs.Total

/-! # The dates of profit and loss

A column is the returns of its trimmed history, weighed by value alone. The first of the dates that
trimming leaves has no return: it is the base sample from before the window, or the first sample of
the window if there is none before it.
-/

namespace CurvePnl

variable {α : Type}

namespace DateSeries

end DateSeries

variable [Quantity α]

namespace Sources

variable (s : Sources α)

/-- What the column with this place and key is made of: the history that the source returns for the
node at the place, or that the days of the fetched window report of the key, and the levels that
trimming and converting leave of it. -/
inductive ColumnLevels (request : AttributionRequest) (on : Date) (i : Nat) (key : Tenor) :
    DateSeries α → DateSeries α → Prop where
  | quoted {curve node history levels} {p : QuotedPlan α} (identity : request.curve = .quoted curve)
      (resolved : p.Resolved s request curve on) (place : p.specification.nodes[i]? = some node)
      (maturity : node.maturity = key) (returned : s.nodeHistory node p.fetched = .ok history)
      (converted : ConvertedLevels (history.trimTo request.window.first) p.conversion levels) :
      ColumnLevels request on i key history levels
  | implied {curve construction fetched history}
      (identity : request.curve = .implied curve construction)
      (lead : request.window.fetched? = some fetched)
      (harvested : history.samples = s.harvest construction fetched.days key) :
      ColumnLevels request on i key history (history.trimTo request.window.first)

variable {s} {request : AttributionRequest} {on : Date}

theorem ColumnLevels.dates_eq {i : Nat} {key : Tenor} {history levels : DateSeries α}
    (h : s.ColumnLevels request on i key history levels) :
    levels.dates = (history.trimTo request.window.first).dates := by
  cases h with
  | quoted _ _ _ _ _ converted => exact converted.dates_eq
  | implied => rfl

/-- No source of a quoted curve returns samples from after the window. -/
def EndsInWindow (s : Sources α) (request : AttributionRequest) : Prop :=
  ∀ curve node fetched history, request.curve = .quoted curve →
    request.window.fetched? = some fetched → s.nodeHistory node fetched = .ok history →
    ∀ d ∈ history.dates, d ≤ request.window.last

theorem ColumnLevels.early {i : Nat} {key : Tenor} {history levels : DateSeries α}
    (h : s.ColumnLevels request on i key history levels) (ends : s.EndsInWindow request) :
    ∀ d ∈ history.dates, d ≤ request.window.last := by
  cases h with
  | quoted identity resolved _ _ returned _ => exact ends _ _ _ _ identity resolved.lead returned
  | implied identity lead harvested =>
      intro d member
      obtain ⟨⟨d, rate⟩, sampled, rfl⟩ := List.mem_map.mp member
      rw [harvested] at sampled
      have inside := DateWindow.mem_days.mp (mem_harvest.mp sampled).1
      rw [(DateWindow.fetched?_eq_some.mp lead).2] at inside
      exact inside.2

end Sources

end CurvePnl
