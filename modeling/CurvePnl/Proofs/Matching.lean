import CurvePnl.Proofs.Bundles
import CurvePnl.Proofs.ReplayDays
import CurvePnl.Proofs.SharedSteps

/-! # Matching after insertions

What is matched of a bundle, told by the insertions that built it. The first insertion for a curve
fixes the currency, and the last one for the curve in that currency gives the vector.
-/

namespace CurvePnl

variable {α β γ : Type}

theorem eraseDups_map [BEq β] [LawfulBEq β] [BEq γ] [LawfulBEq γ] {f : β → γ}
    (injective : Function.Injective f) (l : List β) : (l.map f).eraseDups = l.eraseDups.map f := by
  induction l using List.reverseRecOn with
  | nil => rfl
  | append_singleton l b ih =>
      rw [List.map_append, List.map_singleton, List.eraseDups_append, List.eraseDups_append, ih,
        List.map_append, List.cons_removeAll, List.cons_removeAll]
      by_cases old : b ∈ l
      · simp [old, injective.eq_iff]
      · simp [old, injective.eq_iff, List.eraseDups_cons]

/-- The insertions for a curve. -/
def insertionsFor (l : List (SensitivityEntry α)) (curve : CurveName) :
    List (SensitivityEntry α) :=
  l.filter (·.curve == curve)

/-- The other currencies of these insertions, each once, in the order of their first insertions. -/
def otherCurrencies (l : List (SensitivityEntry α)) (currency : Currency) : List Currency :=
  ((l.map (·.currency)).filter (· != currency)).eraseDups

/-- The events that tell of ignored currencies: one warning, if there are any. -/
def ignoredWarning (curve : CurveName) (currency : Currency) (ignored : List Currency) :
    List (Event α) :=
  if ignored = [] then [] else [.ambiguousCurrencies curve currency ignored.length]

namespace SensitivityBundle

variable {l : List (SensitivityEntry α)} {curve : CurveName}

theorem curve_of_insertionsFor {e : SensitivityEntry α} (member : e ∈ insertionsFor l curve) :
    e.curve = curve :=
  beq_iff_eq.mp (List.mem_filter.mp member).2

theorem mem_forCurve_ofInsertions {x : SensitivityEntry α} :
    x ∈ (ofInsertions l).forCurve curve ↔ x.curve = curve ∧
      ((insertionsFor l curve).filter (·.currency == x.currency)).getLast? = some x := by
  rw [forCurve, List.mem_filter, mem_ofInsertions, insertionsFor, List.filter_filter, and_comm,
    beq_iff_eq]
  refine and_congr_right ?_
  rintro rfl
  have same (e : SensitivityEntry α) :
      (e.key == x.key) = (e.currency == x.currency && e.curve == x.curve) := by
    rw [Bool.eq_iff_iff]
    simp [SensitivityEntry.key, and_comm]
  simp only [same]

theorem currencies_ofInsertions (l : List (SensitivityEntry α)) (curve : CurveName) :
    ((ofInsertions l).forCurve curve).map (·.currency) =
      ((insertionsFor l curve).map (·.currency)).eraseDups := by
  have order := keys_ofInsertions (insertionsFor l curve)
  rw [keys_of_curve fun e => curve_of_insertionsFor,
    eraseDups_map (Prod.mk_right_injective curve), insertionsFor, ← forCurve_ofInsertions,
    keys_of_curve fun e => curve_of_mem_forCurve] at order
  exact List.map_injective_iff.mpr (Prod.mk_right_injective curve) order

theorem matched?_ofInsertions_of_none (unnamed : insertionsFor l curve = []) :
    (ofInsertions l).matched? curve = none := by
  rw [matched?_eq_none_iff, forCurve_ofInsertions, ← insertionsFor, unnamed]
  rfl

theorem exists_matched?_ofInsertions {first : SensitivityEntry α}
    (named : (insertionsFor l curve).head? = some first) :
    ∃ last, ((insertionsFor l curve).filter (·.currency == first.currency)).getLast? = some last ∧
      (ofInsertions l).matched? curve = some ⟨first.currency, last.vector,
        otherCurrencies (insertionsFor l curve) first.currency⟩ := by
  obtain ⟨rest, all⟩ := List.head?_eq_some_iff.mp named
  have currencies := currencies_ofInsertions l curve
  rw [all, List.map_cons, List.eraseDups_cons] at currencies
  cases found : (ofInsertions l).forCurve curve with
  | nil =>
      rw [found] at currencies
      cases currencies
  | cons last others =>
      rw [found, List.map_cons, List.cons.injEq] at currencies
      obtain ⟨same, ignored⟩ := currencies
      have first_in : last ∈ (ofInsertions l).forCurve curve := by
        rw [found]
        exact List.mem_cons_self
      have others_eq : otherCurrencies (insertionsFor l curve) first.currency =
          others.map (·.currency) := by
        rw [ignored, otherCurrencies, all, List.map_cons, List.filter_cons_of_neg (by simp)]
        rfl
      refine ⟨last, ?_, matched?_eq_some_iff.mpr ⟨last, ?_, ?_⟩⟩
      · rw [← same]
        exact (mem_forCurve_ofInsertions.mp first_in).2
      · rw [found, List.head?_cons]
      · rw [found, List.tail_cons, same, others_eq]

theorem warnings_matchCurve_of_some {b : SensitivityBundle α} {m : MatchedSensitivity α}
    (found : b.matched? curve = some m) (j : Journal α) :
    eventsFrom .warn ((b.matchCurve curve).journal j).events.toList =
      eventsFrom .warn j.events.toList ++ ignoredWarning curve m.currency m.ignored := by
  have told : ((b.matchCurve curve).journal j).events.toList =
      j.events.toList ++ ignoredWarning curve m.currency m.ignored := by
    unfold matchCurve ignoredWarning
    rw [found]
    cases ignored : m.ignored with
    | nil => simp [MatchedSensitivity.isAmbiguous, ignored]
    | cons c rest =>
        simp only [MatchedSensitivity.isAmbiguous, ignored]
        exact Log.toList_push _ _
  rw [told, Sources.eventsFrom_append]
  congr 1
  unfold ignoredWarning
  split <;> rfl

/-- Matching a bundle that insertions built. It fails exactly if no insertion names the curve, and
tells nothing then. Otherwise the first insertion for the curve gives the currency, the last one in
that currency gives the vector, and the other currencies are told of in one warning, if there are
any. Insertions for other curves make no difference. -/
theorem match_after_insertions (l : List (SensitivityEntry α)) (curve : CurveName)
    (j : Journal α) :
    (((ofInsertions l).matchCurve curve).outcome j =
        .error (.failed (.missingSensitivities curve)) ↔ insertionsFor l curve = []) ∧
    (insertionsFor l curve = [] → ((ofInsertions l).matchCurve curve).journal j = j) ∧
    (∀ first, (insertionsFor l curve).head? = some first →
      ∃ last,
        ((insertionsFor l curve).filter (·.currency == first.currency)).getLast? = some last ∧
        ((ofInsertions l).matchCurve curve).outcome j =
          .ok ⟨first.currency, last.vector,
            otherCurrencies (insertionsFor l curve) first.currency⟩ ∧
        eventsFrom .warn (((ofInsertions l).matchCurve curve).journal j).events.toList =
          eventsFrom .warn j.events.toList ++ ignoredWarning curve first.currency
            (otherCurrencies (insertionsFor l curve) first.currency)) ∧
    ∀ l', insertionsFor l' curve = insertionsFor l curve →
      (ofInsertions l').matchCurve curve = (ofInsertions l).matchCurve curve := by
  refine ⟨⟨?_, ?_⟩, ?_, ?_, ?_⟩
  · intro failed
    cases named : insertionsFor l curve with
    | nil => rfl
    | cons first rest =>
        obtain ⟨last, -, found⟩ := exists_matched?_ofInsertions (by rw [named, List.head?_cons])
        rw [outcome_matchCurve_eq_ok.mpr found] at failed
        cases failed
  · intro unnamed
    rw [matchCurve, matched?_ofInsertions_of_none unnamed, Work.outcome_fail]
  · intro unnamed
    rw [matchCurve, matched?_ofInsertions_of_none unnamed, Work.journal_fail]
  · intro first named
    obtain ⟨last, latest, found⟩ := exists_matched?_ofInsertions named
    exact ⟨last, latest, outcome_matchCurve_eq_ok.mpr found, warnings_matchCurve_of_some found j⟩
  · intro l' same
    have alike : (ofInsertions l').matched? curve = (ofInsertions l).matched? curve := by
      apply matched?_congr
      rw [forCurve_ofInsertions, forCurve_ofInsertions, ← insertionsFor, same, insertionsFor]
    rw [matchCurve, matchCurve, alike]

/-- A curve named in two currencies, with another curve in between. -/
def mixedInsertions : List (SensitivityEntry Float) :=
  [⟨"USD-OIS", .usd, [1.0]⟩, ⟨"EUR-OIS", .eur, [2.0]⟩, ⟨"USD-OIS", .eur, [3.0]⟩,
    ⟨"USD-OIS", .usd, [4.0]⟩]

theorem match_mixedInsertions :
    (insertionsFor mixedInsertions "GBP-OIS" = [] ∧
      ((ofInsertions mixedInsertions).matchCurve "GBP-OIS").journal (.blank false) =
        .blank false) ∧
    ((ofInsertions mixedInsertions).matchCurve "USD-OIS").outcome (.blank false) =
      .ok ⟨.usd, [4.0], [.eur]⟩ ∧
    (ofInsertions mixedInsertions).matchCurve "EUR-OIS" =
      (ofInsertions [⟨"EUR-OIS", .eur, [2.0]⟩]).matchCurve "EUR-OIS" := by
  obtain ⟨-, quiet, -, -⟩ := match_after_insertions mixedInsertions "GBP-OIS" (.blank false)
  obtain ⟨-, -, named, -⟩ := match_after_insertions mixedInsertions "USD-OIS" (.blank false)
  obtain ⟨-, -, -, alike⟩ := match_after_insertions
    [(⟨"EUR-OIS", .eur, [2.0]⟩ : SensitivityEntry Float)] "EUR-OIS" (.blank false)
  obtain ⟨last, latest, matched, -⟩ := named _ rfl
  cases latest
  exact ⟨⟨rfl, quiet rfl⟩, matched, alike _ rfl⟩

end SensitivityBundle

end CurvePnl
