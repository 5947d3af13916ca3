import CurvePnl.Attribution.Journal

/-! # Matching a curve with its sensitivities

A bundle may hold sensitivities to one curve in several currencies. The first entry counts; the
others are ignored with a warning.
-/

namespace CurvePnl

/-- The sensitivities that count for a curve. -/
structure MatchedSensitivity (α : Type) where
  currency : Currency
  vector : List α
  ignored : List Currency

namespace MatchedSensitivity

/-- Whether the bundle left a choice. -/
def isAmbiguous (m : MatchedSensitivity α) : Bool := !m.ignored.isEmpty

end MatchedSensitivity

namespace SensitivityBundle

/-- The sensitivities that count for a curve, if it has any entry. -/
def matched? (b : SensitivityBundle α) (curve : CurveName) : Option (MatchedSensitivity α) :=
  match b.forCurve curve with
  | [] => none
  | e :: rest => some ⟨e.currency, e.vector, rest.map (·.currency)⟩

/-- Matches a curve, and warns if currencies are ignored. -/
def matchCurve (b : SensitivityBundle α) (curve : CurveName) :
    Work α (MatchedSensitivity α) :=
  match b.matched? curve with
  | none => Work.fail (.missingSensitivities curve)
  | some m => do
    if m.isAmbiguous then
      Work.note (.ambiguousCurrencies curve m.currency m.ignored.length)
    return m

end SensitivityBundle

/-- A curve needs one sensitivity per node. -/
def Work.checkCount (curve : CurveName) (nodes sensitivities : Nat) : Work α Unit :=
  if nodes = sensitivities then pure ()
  else Work.fail (.countMismatch curve nodes sensitivities)

end CurvePnl
