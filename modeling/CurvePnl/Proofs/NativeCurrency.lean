import CurvePnl.Proofs.ImpliedRun
import CurvePnl.Proofs.QuotedRun

/-! # Asking for the native currency

A run that is asked for its native currency is the run that is asked for none, call by call and
event by event. On an implied curve the request names the native currency, so the two runs are the
same piece of work. On a quoted curve it is known only once the sensitivities are matched, and only
from there on do the runs have to be compared.
-/

namespace CurvePnl

variable {α : Type}

/-- What follows a piece of work matters only for the values that the work can yield. -/
theorem Work.bind_congr_of_ok {β γ : Type} {w : Work α β} {f g : β → Work α γ}
    (same : ∀ j b, w.outcome j = .ok b → f b = g b) : w >>= f = w >>= g := by
  apply ExceptT.ext
  apply StateT.ext
  intro j
  apply (run_bind w f j).trans
  apply Eq.trans _ (run_bind w g j).symm
  cases ended : w.outcome j with
  | ok b =>
      dsimp only
      rw [same j b ended]
  | error e => rfl

variable [Quantity α]

namespace Sources

variable (s : Sources α)

/-- `currency` is the native one of the request: that of the sensitivities that count for a quoted
curve, as far as there are any, and the one that the request names for an implied curve. -/
def IsNative (request : AttributionRequest) (on : Date) (currency : Currency) : Prop :=
  match request.curve with
  | .quoted curve => ∀ bundle matched, s.sensitivities request.position on = .ok bundle →
      bundle.matched? curve = some matched → matched.currency = currency
  | .implied .. => currency = request.curveCurrency

theorem conversionNeeded_self (native : Currency) : conversionNeeded native (some native) = none :=
  conversionNeeded_eq_none.mpr (.inr rfl)

theorem quotedConversion_self (native : Currency) (window : DateWindow) :
    s.quotedConversion native (some native) window = s.quotedConversion native none window := by
  unfold quotedConversion
  rw [conversionNeeded_self]
  rfl

theorem pnlConversion_self (native : Currency) (mode mode' : ConversionMode) (window : DateWindow)
    (on : Date) : s.pnlConversion native (some native) mode window on =
      s.pnlConversion native none mode' window on := by
  unfold pnlConversion
  rw [conversionNeeded_self]
  rfl

variable {request : AttributionRequest} {on : Date} {currency : Currency}

theorem attributeQuoted_native {curve : CurveName}
    (native : ∀ bundle matched, s.sensitivities request.position on = .ok bundle →
      bundle.matched? curve = some matched → matched.currency = currency)
    (mode mode' : ConversionMode) :
    s.attributeQuoted { request with outputCurrency := some currency, mode := mode } curve on =
      s.attributeQuoted { request with outputCurrency := none, mode := mode' } curve on := by
  rw [attributeQuoted_eq, attributeQuoted_eq]
  apply Work.bind_congr_of_ok
  intro j inputs found
  obtain ⟨-, sensitivities, -⟩ := s.outcome_quotedInputs_eq_ok.mp found
  apply Work.bind_congr_of_ok
  intro j matched counts
  have same := native _ _ sensitivities (SensitivityBundle.outcome_matchCurve_eq_ok.mp counts)
  subst same
  apply bind_congr
  intro _
  apply bind_congr
  intro fetched
  rw [quotedConversion_self]
  rfl

theorem attributeImplied_native {curve : CurveName} {construction : ConstructionName}
    (native : currency = request.curveCurrency) (mode mode' : ConversionMode) :
    s.attributeImplied { request with outputCurrency := some currency, mode := mode }
        curve construction on =
      s.attributeImplied { request with outputCurrency := none, mode := mode' }
        curve construction on := by
  subst native
  have inputs : s.impliedInputs { request with
        outputCurrency := some request.curveCurrency, mode := mode } on =
      s.impliedInputs { request with outputCurrency := none, mode := mode' } on := by
    unfold impliedInputs
    simp only [s.pnlConversion_self request.curveCurrency mode mode']
  unfold attributeImplied
  rw [inputs]
  rfl

/-- The run that is asked for its native currency and the run that is asked for none are the same
in what they yield, in what they ask and note, and in the tokens they leave, whatever their modes.
On a quoted curve the mode of no run matters. -/
theorem run_in_native_currency (request : AttributionRequest) (context : ValuationContext)
    (tokens : Tokens) :
    (∀ currency, s.IsNative request context.date currency → ∀ mode mode' : ConversionMode,
      s.run { request with outputCurrency := some currency, mode := mode } context tokens =
        s.run { request with outputCurrency := none, mode := mode' } context tokens) ∧
      ∀ curve, request.curve = .quoted curve →
        ∀ (output : Option Currency) (mode mode' : ConversionMode),
          s.run { request with outputCurrency := output, mode := mode } context tokens =
            s.run { request with outputCurrency := output, mode := mode' } context tokens := by
  obtain ⟨position, identity, curveCurrency, window, _, _⟩ := request
  constructor
  · intro currency native mode mode'
    unfold run attribution
    cases identity with
    | quoted curve => simp only [s.attributeQuoted_native native mode mode']
    | implied curve construction => simp only [s.attributeImplied_native native mode mode']
  · intro curve quoted output mode mode'
    subst quoted
    rfl

theorem run_euroDeposits_in_euros :
    euroDeposits.IsNative mondayInDollars .monday .eur ∧
      mondayInDollars.curve = .quoted "EUR-OIS" ∧
      euroDeposits.run { mondayInDollars with outputCurrency := some .eur, mode := .historicalSpot }
          ⟨.monday, ⟨0⟩⟩ .none =
        euroDeposits.run { mondayInDollars with outputCurrency := none, mode := .snapshot }
          ⟨.monday, ⟨0⟩⟩ .none ∧
      euroDeposits.run { mondayInDollars with outputCurrency := some .usd, mode := .historicalSpot }
          ⟨.monday, ⟨0⟩⟩ .none =
        euroDeposits.run { mondayInDollars with outputCurrency := some .usd, mode := .snapshot }
          ⟨.monday, ⟨0⟩⟩ .none := by
  have native : euroDeposits.IsNative mondayInDollars .monday .eur := by
    intro bundle matched answered counts
    cases answered
    cases counts
    rfl
  have same := euroDeposits.run_in_native_currency mondayInDollars ⟨.monday, ⟨0⟩⟩ .none
  exact ⟨native, rfl, same.1 .eur native .historicalSpot .snapshot,
    same.2 "EUR-OIS" rfl (some .usd) .historicalSpot .snapshot⟩

end Sources

end CurvePnl
