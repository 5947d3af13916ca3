import CurvePnl.Proofs.Work
import CurvePnl.Store.History
import CurvePnl.Store.ImpliedCurves
import CurvePnl.Store.Specifications
import Mathlib.Data.List.Basic

/-! # Stores after a reload that failed

A store is known by its answers. The stores of histories and of specifications read the whole file
before they let go of what they hold, so a reload that fails changes none of their answers. The
store of implied curves is cleared first and filled row by row: it is left with the rows in front of
the fault.
-/

namespace CurvePnl

variable {α : Type}

/-- Both stores answer every question in the same way. -/
structure HistoryStore.Alike (s t : HistoryStore α) : Prop where
  node : ∀ node window, s.nodeHistory node window = t.nodeHistory node window
  fx : ∀ pair window, s.fxHistory pair window = t.fxHistory pair window
  size : s.size = t.size

/-- Both stores answer every question in the same way. -/
def SpecificationStore.Alike (s t : SpecificationStore) : Prop :=
  ∀ curve, s.specification curve = t.specification curve

/-- Both stores answer every question in the same way. -/
structure ImpliedCurveStore.Alike (s t : ImpliedCurveStore α) : Prop where
  curve : ∀ construction d, s.curve construction d = t.curve construction d
  size : s.size = t.size

theorem HistoryStore.reload_of_error {s : HistoryStore α} {file : Option (Csv.Records (HistoryRow α))}
    {h : Halt SourceError} (failed : (s.reload file).1 = .error h) : (s.reload file).2 = s := by
  unfold reload at failed ⊢
  cases file with
  | none => rfl
  | some r =>
      simp only at failed ⊢
      cases loaded : ofRecords r with
      | error h => rfl
      | ok new =>
          rw [loaded] at failed
          cases failed

theorem SpecificationStore.reload_of_error {s : SpecificationStore}
    {file : Option (Except (Halt SourceError) (List CurveSpecification))}
    {h : Halt SourceError} (failed : (s.reload file).1 = .error h) : (s.reload file).2 = s := by
  cases file with
  | none => rfl
  | some decoded =>
      cases decoded with
      | error h => rfl
      | ok specifications => cases failed

namespace ImpliedCurveStore

/-- The points that rows give for a date, in the order of the rows. -/
def pointsOf (rows : List (ParRateRow α)) (d : Date) : List (Tenor × α) :=
  rows.filterMap fun row => if row.date = d then some (row.tenor, row.rate) else none

/-- The points that a store holds for a date; none for a date without a curve. -/
def points (s : ImpliedCurveStore α) (d : Date) : List (Tenor × α) := (s.curves.lookup d).getD []

/-- Each date has one curve, and no curve is empty. -/
structure Sound (s : ImpliedCurveStore α) : Prop where
  distinct : (s.curves.map (·.1)).Nodup
  nonempty : ∀ c ∈ s.curves, c.2 ≠ []

theorem mem_dates_addRow {row : ParRateRow α} {curves : List (Date × List (Tenor × α))}
    {d : Date} : d ∈ (addRow row curves).map (·.1) ↔ d = row.date ∨ d ∈ curves.map (·.1) := by
  induction curves with
  | nil => simp [addRow]
  | cons c rest ih =>
      unfold addRow
      split
      next same => simp [same]
      · simp only [List.map_cons, List.mem_cons, ih]
        exact or_left_comm

theorem Sound.addRow {curves : List (Date × List (Tenor × α))} (sound : Sound ⟨curves⟩)
    (row : ParRateRow α) : Sound ⟨addRow row curves⟩ := by
  induction curves with
  | nil => exact ⟨by simp [ImpliedCurveStore.addRow], by simp [ImpliedCurveStore.addRow]⟩
  | cons c rest ih =>
      obtain ⟨fresh, distinct⟩ := List.nodup_cons.mp sound.distinct
      obtain ⟨filled, nonempty⟩ := List.forall_mem_cons.mp sound.nonempty
      unfold ImpliedCurveStore.addRow
      split
      · exact ⟨sound.distinct, List.forall_mem_cons.mpr ⟨by simp, nonempty⟩⟩
      next other =>
        have rest_sound := ih ⟨distinct, nonempty⟩
        refine ⟨List.nodup_cons.mpr ⟨?_, rest_sound.distinct⟩,
          List.forall_mem_cons.mpr ⟨filled, rest_sound.nonempty⟩⟩
        intro member
        rcases mem_dates_addRow.mp member with same | member
        · exact other same
        · exact fresh member

theorem points_addRow (row : ParRateRow α) (curves : List (Date × List (Tenor × α))) (d : Date) :
    points ⟨addRow row curves⟩ d =
      points ⟨curves⟩ d ++ if row.date = d then [(row.tenor, row.rate)] else [] := by
  simp only [points]
  induction curves with
  | nil =>
      by_cases here : row.date = d
      · simp [addRow, here]
      · simp [addRow, here, List.lookup_cons, beq_false_of_ne (Ne.symm here)]
  | cons c rest ih =>
      obtain ⟨e, held⟩ := c
      unfold addRow
      split
      next same =>
        by_cases here : row.date = d
        · simp [same, here]
        · simp [same, here, List.lookup_cons, beq_false_of_ne (Ne.symm here)]
      next other =>
        by_cases first : e = d
        · have elsewhere : row.date ≠ d := fun here => other (first.trans here.symm)
          simp [first, elsewhere]
        · simpa [List.lookup_cons, beq_false_of_ne (Ne.symm first)] using ih

theorem foldl_addRow {curves : List (Date × List (Tenor × α))} (sound : Sound ⟨curves⟩)
    (rows : List (ParRateRow α)) :
    Sound ⟨rows.foldl (fun curves row => addRow row curves) curves⟩ ∧
      ∀ d, points ⟨rows.foldl (fun curves row => addRow row curves) curves⟩ d =
        points ⟨curves⟩ d ++ pointsOf rows d := by
  induction rows generalizing curves with
  | nil => exact ⟨sound, fun d => by simp [pointsOf]⟩
  | cons row rest ih =>
      obtain ⟨rest_sound, held⟩ := ih (sound.addRow row)
      refine ⟨rest_sound, fun d => ?_⟩
      rw [List.foldl_cons, held, points_addRow, List.append_assoc]
      by_cases here : row.date = d
      · simp [pointsOf, here]
      · simp [pointsOf, here]

theorem sound_empty : (empty : ImpliedCurveStore α).Sound :=
  ⟨List.nodup_nil, fun _ member => absurd member List.not_mem_nil⟩

theorem sound_ofRows (rows : List (ParRateRow α)) : (ofRows rows).Sound :=
  (foldl_addRow sound_empty rows).1

theorem points_ofRows (rows : List (ParRateRow α)) (d : Date) :
    (ofRows rows).points d = pointsOf rows d :=
  (foldl_addRow sound_empty rows).2 d

/-- Whatever is loaded, a store stays sound. -/
theorem Sound.reload {s : ImpliedCurveStore α} (sound : s.Sound)
    (file : Option (Csv.Records (ParRateRow α))) : (s.reload file).2.Sound := by
  cases file with
  | none => exact sound
  | some r => exact sound_ofRows r.good

/-- The answer to the question for a curve with these points. -/
def answer (construction : ConstructionName) (d : Date) :
    List (Tenor × α) → Except SourceError (ImpliedCurve α)
  | [] => .error ⟨.constructionFailed, "no " ++ construction ++ " curve data for " ++ d.text⟩
  | points => .ok ⟨points⟩

theorem answer_inj {construction : ConstructionName} {d : Date} {l m : List (Tenor × α)} :
    answer construction d l = answer construction d m ↔ l = m := by
  cases l <;> cases m <;> simp [answer]

theorem mem_curves_of_lookup {s : ImpliedCurveStore α} {d : Date} {held : List (Tenor × α)}
    (found : s.curves.lookup d = some held) : (d, held) ∈ s.curves := by
  obtain ⟨before, after, split, -⟩ := List.lookup_eq_some_iff.mp found
  simp [split]

theorem Sound.curve_eq {s : ImpliedCurveStore α} (sound : s.Sound)
    (construction : ConstructionName) (d : Date) :
    s.curve construction d = answer construction d (s.points d) := by
  unfold curve points
  cases found : s.curves.lookup d with
  | none => rfl
  | some held =>
      have filled : held ≠ [] := sound.nonempty (d, held) (mem_curves_of_lookup found)
      cases held with
      | nil => exact absurd rfl filled
      | cons p rest => rfl

theorem Sound.mem_dates {s : ImpliedCurveStore α} (sound : s.Sound) {d : Date} :
    d ∈ s.curves.map (·.1) ↔ s.points d ≠ [] := by
  unfold points
  cases found : s.curves.lookup d with
  | none =>
      constructor
      · intro member
        obtain ⟨c, held, rfl⟩ := List.mem_map.mp member
        have other := List.lookup_eq_none_iff.mp found c held
        simp at other
      · intro nonempty
        exact absurd rfl nonempty
  | some held =>
      have member := mem_curves_of_lookup found
      simp [sound.nonempty _ member, List.mem_map_of_mem member]

theorem Sound.alike_iff {s t : ImpliedCurveStore α} (sound : s.Sound) (sound' : t.Sound) :
    s.Alike t ↔ ∀ d, s.points d = t.points d := by
  constructor
  · intro alike d
    have same := alike.curve "" d
    rwa [sound.curve_eq, sound'.curve_eq, answer_inj] at same
  · intro same
    refine ⟨fun construction d => ?_, ?_⟩
    · rw [sound.curve_eq, sound'.curve_eq, same]
    · have dates : (s.curves.map (·.1)).Perm (t.curves.map (·.1)) :=
        (List.perm_ext_iff_of_nodup sound.distinct sound'.distinct).mpr fun d => by
          rw [sound.mem_dates, sound'.mem_dates, same]
      simpa [ImpliedCurveStore.size] using dates.length_eq

/-- A file at fault replaces what a store of implied curves holds by the rows in front of the
fault. -/
theorem reload_of_error {s : ImpliedCurveStore α} {file : Option (Csv.Records (ParRateRow α))}
    {h : Halt SourceError} (failed : (s.reload file).1 = .error h) :
    ∃ r, file = some r ∧ (s.reload file).2 = ofRows r.good := by
  cases file with
  | none => cases failed
  | some r => exact ⟨r, rfl, rfl⟩

end ImpliedCurveStore

/-- After a reload that failed, the stores of histories and of specifications answer as before. A
store of implied curves answers with the rows in front of the fault, which is as before exactly if
these rows give every date the points that the store held. -/
theorem failed_reload_answers :
    (∀ (s : HistoryStore α) file h, (s.reload file).1 = .error h → (s.reload file).2.Alike s) ∧
      (∀ (s : SpecificationStore) file h, (s.reload file).1 = .error h →
        (s.reload file).2.Alike s) ∧
      ∀ (s : ImpliedCurveStore α) file h, s.Sound → (s.reload file).1 = .error h →
        ∃ r, file = some r ∧
          (∀ construction d, (s.reload file).2.curve construction d =
            ImpliedCurveStore.answer construction d (ImpliedCurveStore.pointsOf r.good d)) ∧
          ((s.reload file).2.Alike s ↔
            ∀ d, ImpliedCurveStore.pointsOf r.good d = s.points d) := by
  refine ⟨?histories, ?specifications, ?curves⟩
  case histories =>
    intro s file h failed
    rw [HistoryStore.reload_of_error failed]
    exact ⟨fun _ _ => rfl, fun _ _ => rfl, rfl⟩
  case specifications =>
    intro s file h failed
    rw [SpecificationStore.reload_of_error failed]
    exact fun _ => rfl
  case curves =>
    intro s file h sound failed
    obtain ⟨r, given, left⟩ := ImpliedCurveStore.reload_of_error failed
    have left_sound := ImpliedCurveStore.sound_ofRows r.good
    rw [left]
    refine ⟨r, given, fun construction d => ?_, ?_⟩
    · rw [left_sound.curve_eq, ImpliedCurveStore.points_ofRows]
    · simp only [left_sound.alike_iff sound, ImpliedCurveStore.points_ofRows]

/-- One par rate on one day. -/
def oneParRate : ImpliedCurveStore Float := .ofRows [⟨.monday, ⟨.months, 1⟩, 0.041⟩]

/-- Records of which the first is at fault. -/
def faultyRecords : Csv.Records (ParRateRow Float) := ⟨[], some (.failed ())⟩

theorem reload_faultyRecords :
    oneParRate.Sound ∧
      (oneParRate.reload (some faultyRecords)).1 = .error (.failed .cannotDecode) ∧
      oneParRate.curve "USD-FX" .monday = .ok ⟨[(⟨.months, 1⟩, 0.041)]⟩ ∧
      (oneParRate.reload (some faultyRecords)).2.curve "USD-FX" .monday =
        .error ⟨.constructionFailed, "no USD-FX curve data for " ++ Date.monday.text⟩ ∧
      ¬ (oneParRate.reload (some faultyRecords)).2.Alike oneParRate := by
  have sound : oneParRate.Sound := ImpliedCurveStore.sound_ofRows _
  have failed : (oneParRate.reload (some faultyRecords)).1 =
      .error (.failed .cannotDecode) := rfl
  obtain ⟨r, given, answers, alike⟩ := failed_reload_answers.2.2 oneParRate _ _ sound failed
  cases given
  refine ⟨sound, failed, rfl, answers _ _, fun same => ?_⟩
  have lost := alike.mp same .monday
  cases lost

/-- Not every store keeps its answers when a reload fails: the par rate that was there is gone after
a file whose first row is at fault. -/
theorem not_forall_failed_reload_keeps :
    ¬ ((∀ (s : HistoryStore Float) file e, (s.reload file).1 = .error (.failed e) →
          (s.reload file).2.Alike s) ∧
        (∀ (s : SpecificationStore) file e, (s.reload file).1 = .error (.failed e) →
          (s.reload file).2.Alike s) ∧
        ∀ (s : ImpliedCurveStore Float) file e, s.Sound →
          (s.reload file).1 = .error (.failed e) → (s.reload file).2.Alike s) := by
  rintro ⟨-, -, keeps⟩
  have size := (keeps oneParRate (some faultyRecords) .cannotDecode
    (ImpliedCurveStore.sound_ofRows _) rfl).size
  revert size
  decide

end CurvePnl
