import CurvePnl.Proofs.Reload
import CurvePnl.Store.DataSet

/-! # Stores after a reload that succeeded

A file that loads takes the place of all that a store held, so the store then answers like one that
has just been made from the file. A file that is missing changes nothing, where a store made anew
would be empty: whatever was loaded before is still answered.
-/

namespace CurvePnl

variable {α σ φ : Type}

/-- A file that loads leaves nothing of what was there before, and a missing file leaves all. -/
structure Replaces (reload : σ → Option φ → Except (Halt SourceError) Unit × σ) : Prop where
  missing : ∀ s, reload s none = (.ok (), s)
  present : ∀ s t file, (reload s (some file)).1 = .ok () →
    reload s (some file) = reload t (some file)

/-- After a reload the store is like a new one, unless the file is missing and something was there
before. -/
theorem Replaces.exists_fresh {reload : σ → Option φ → Except (Halt SourceError) Unit × σ}
    (replaces : Replaces reload) {alike : σ → σ → Prop} (refl : ∀ s, alike s s) {s empty : σ}
    {file : Option φ} (ok : (reload s file).1 = .ok ()) :
    ∃ fresh, DataSet.reloaded (reload empty file) = .ok fresh ∧
      (alike (reload s file).2 fresh ↔ (file = none → alike s empty)) := by
  cases file with
  | none =>
      refine ⟨empty, ?_, ?_⟩
      · rw [replaces.missing]
        rfl
      · simp [replaces.missing]
  | some file =>
      have same : reload s (some file) = reload empty (some file) :=
        replaces.present s empty file ok
      rw [same] at ok ⊢
      refine ⟨(reload empty (some file)).2, ?_, ?_⟩
      · generalize reload empty (some file) = result at ok
        obtain ⟨told, after⟩ := result
        cases ok
        rfl
      · simp [refl]

namespace HistoryStore

theorem replaces : Replaces (reload (α := α)) where
  missing _ := rfl
  present s t file ok := by
    simp only [reload] at ok ⊢
    cases loaded : ofRecords file with
    | error h =>
        rw [loaded] at ok
        cases ok
    | ok new => rfl

theorem Alike.refl (s : HistoryStore α) : s.Alike s := ⟨fun _ _ => rfl, fun _ _ => rfl, rfl⟩

theorem alike_empty_iff {s : HistoryStore α} : s.Alike empty ↔ s.series = [] := by
  constructor
  · intro alike
    exact List.eq_nil_of_length_eq_zero alike.size
  · intro nothing
    have same : s = empty := congrArg HistoryStore.mk nothing
    rw [same]
    exact .refl _

end HistoryStore

namespace SpecificationStore

theorem replaces : Replaces reload where
  missing _ := rfl
  present s t file ok := by
    cases file with
    | error h => cases ok
    | ok specifications => rfl

theorem alike_empty_iff {s : SpecificationStore} : s.Alike empty ↔ s.specifications = [] := by
  constructor
  · intro alike
    rw [List.eq_nil_iff_forall_not_mem]
    intro specification member
    have answer := alike specification.curve
    have found : (s.specifications.reverse.find? (·.curve == specification.curve)).isSome := by
      rw [List.find?_isSome]
      exact ⟨specification, List.mem_reverse.mpr member, BEq.rfl⟩
    obtain ⟨last, found⟩ := Option.isSome_iff_exists.mp found
    rw [SpecificationStore.specification, found] at answer
    cases answer
  · intro nothing
    have same : s = empty := congrArg SpecificationStore.mk nothing
    rw [same]
    exact fun _ => rfl

end SpecificationStore

namespace ImpliedCurveStore

theorem replaces : Replaces (reload (α := α)) where
  missing _ := rfl
  present _ _ _ _ := rfl

theorem Alike.refl (s : ImpliedCurveStore α) : s.Alike s := ⟨fun _ _ => rfl, rfl⟩

theorem alike_empty_iff {s : ImpliedCurveStore α} : s.Alike empty ↔ s.curves = [] := by
  constructor
  · intro alike
    exact List.eq_nil_of_length_eq_zero alike.size
  · intro nothing
    have same : s = empty := congrArg ImpliedCurveStore.mk nothing
    rw [same]
    exact .refl _

end ImpliedCurveStore

/-- After a reload that succeeded, a store answers like one that is made anew from the same file,
with one exception: where the file is missing, all that the store held before is still there. -/
theorem reload_is_fresh_iff :
    (∀ (s : HistoryStore α) file, (s.reload file).1 = .ok () →
        ∃ fresh, DataSet.reloaded (HistoryStore.empty.reload file) = .ok fresh ∧
          ((s.reload file).2.Alike fresh ↔ (file = none → s.series = []))) ∧
      (∀ (s : SpecificationStore) file, (s.reload file).1 = .ok () →
        ∃ fresh, DataSet.reloaded (SpecificationStore.empty.reload file) = .ok fresh ∧
          ((s.reload file).2.Alike fresh ↔ (file = none → s.specifications = []))) ∧
      ∀ (s : ImpliedCurveStore α) file, (s.reload file).1 = .ok () →
        ∃ fresh, DataSet.reloaded (ImpliedCurveStore.empty.reload file) = .ok fresh ∧
          ((s.reload file).2.Alike fresh ↔ (file = none → s.curves = [])) := by
  refine ⟨?histories, ?specifications, ?curves⟩
  case histories =>
    intro s file ok
    simp only [← HistoryStore.alike_empty_iff]
    exact HistoryStore.replaces.exists_fresh .refl ok
  case specifications =>
    intro s file ok
    simp only [← SpecificationStore.alike_empty_iff]
    exact SpecificationStore.replaces.exists_fresh (fun _ _ => rfl) ok
  case curves =>
    intro s file ok
    simp only [← ImpliedCurveStore.alike_empty_iff]
    exact ImpliedCurveStore.replaces.exists_fresh .refl ok

/-- One quote on one day. -/
def oneQuote : HistoryStore Float := ⟨[("USD3M", ⟨[(.monday, 1.5)], by decide⟩)]⟩

/-- One curve without nodes. -/
def oneCurve : SpecificationStore := ⟨[⟨"USD-OIS", []⟩]⟩

theorem reload_oneQuote :
    (oneQuote.reload none).1 = .ok () ∧
      (∃ fresh : HistoryStore Float, DataSet.reloaded (HistoryStore.empty.reload none) = .ok fresh ∧
        ¬ (oneQuote.reload none).2.Alike fresh) ∧
      (oneCurve.reload (some (.ok []))).1 = .ok () ∧
      (∃ fresh, DataSet.reloaded (SpecificationStore.empty.reload (some (.ok []))) = .ok fresh ∧
        (oneCurve.reload (some (.ok []))).2.Alike fresh) ∧
      (oneParRate.reload (some ⟨[], none⟩)).1 = .ok () ∧
      ∃ fresh : ImpliedCurveStore Float,
        DataSet.reloaded (ImpliedCurveStore.empty.reload (some ⟨[], none⟩)) = .ok fresh ∧
          (oneParRate.reload (some ⟨[], none⟩)).2.Alike fresh := by
  obtain ⟨histories, specifications, curves⟩ := reload_is_fresh_iff (α := Float)
  have quotes : (oneQuote.reload none).1 = .ok () := rfl
  have none_left : (oneCurve.reload (some (.ok []))).1 = .ok () := rfl
  have rates : (oneParRate.reload (some ⟨[], none⟩)).1 = .ok () := rfl
  refine ⟨quotes, ?_, none_left, ?_, rates, ?_⟩
  · obtain ⟨fresh, made, alike⟩ := histories oneQuote none quotes
    exact ⟨fresh, made, fun same => List.cons_ne_nil _ _ (alike.mp same rfl)⟩
  · obtain ⟨fresh, made, alike⟩ := specifications oneCurve _ none_left
    exact ⟨fresh, made, alike.mpr fun missing => nomatch missing⟩
  · obtain ⟨fresh, made, alike⟩ := curves oneParRate _ rates
    exact ⟨fresh, made, alike.mpr fun missing => nomatch missing⟩

/-- Not every reload that succeeds is a fresh load: the quote that was there is still answered after
its file has gone, where a store made anew holds nothing. -/
theorem not_forall_reload_is_fresh :
    ¬ ((∀ (s : HistoryStore Float) file, (s.reload file).1 = .ok () →
          ∃ fresh, DataSet.reloaded (HistoryStore.empty.reload file) = .ok fresh ∧
            (s.reload file).2.Alike fresh) ∧
        (∀ (s : SpecificationStore) file, (s.reload file).1 = .ok () →
          ∃ fresh, DataSet.reloaded (SpecificationStore.empty.reload file) = .ok fresh ∧
            (s.reload file).2.Alike fresh) ∧
        ∀ (s : ImpliedCurveStore Float) file, (s.reload file).1 = .ok () →
          ∃ fresh, DataSet.reloaded (ImpliedCurveStore.empty.reload file) = .ok fresh ∧
            (s.reload file).2.Alike fresh) := by
  rintro ⟨fresh, -, -⟩
  obtain ⟨made, loaded, alike⟩ := fresh oneQuote none rfl
  cases loaded
  have size := alike.size
  revert size
  decide

end CurvePnl
