import CurvePnl.Proofs.Products

/-! # Cuts of cuts

A cut by two dates keeps the samples in between, wherever the dates lie: the places at which the
stored lists are cut are never outside of them, even if the dates come in the wrong order. What is
kept depends on each sample alone, so a cut of a cut is one cut, by the later start and the earlier
end, and it makes no difference whether a series is cut before or after a lenient product.
-/

namespace CurvePnl

namespace Date

/-- The later of two dates. -/
instance : Max Date := maxOfLe

/-- The earlier of two dates. -/
instance : Min Date := minOfLe

variable {d e f : Date}

theorem max_le_iff : max d e ≤ f ↔ d ≤ f ∧ e ≤ f := by
  have later : max d e = if d ≤ e then e else d := rfl
  rw [later]
  simp only [le_def]
  split <;> omega

theorem le_min_iff : f ≤ min d e ↔ f ≤ d ∧ f ≤ e := by
  have earlier : min d e = if d ≤ e then d else e := rfl
  rw [earlier]
  simp only [le_def]
  split <;> omega

end Date

/-- What stands from position `first` on, and before position `last`, if these are positions of the
list in their order. -/
def slice? {β : Type} (l : List β) (first last : Nat) : Option (List β) :=
  if first ≤ last ∧ last ≤ l.length then some ((l.take last).drop first) else none

namespace PlainSeries

variable {α : Type}

/-- The samples dated from `first` to `last`, if the stored lists can be cut at their places. -/
def between? (p : PlainSeries α) (first last : Date) : Option (PlainSeries α) := do
  let low := partitionPoint (· < first) p.dates
  let high := partitionPoint (· ≤ last) p.dates
  return ⟨← slice? p.dates low (max high low), ← slice? p.values low (max high low)⟩

theorem between?_eq (s : DateSeries α) (first last : Date) :
    s.plain.between? first last = some (s.between first last).plain := by
  have length : s.plain.dates.length = s.samples.length := List.length_map _
  have low : partitionPoint (· < first) s.plain.dates ≤ s.plain.dates.length := by
    rw [length, dates_plain, partitionPoint_before]
    exact List.findIdx_le_length
  have high : partitionPoint (· ≤ last) s.plain.dates ≤ s.plain.dates.length := by
    rw [length, dates_plain, partitionPoint_upTo]
    exact List.findIdx_le_length
  have inside := Nat.max_le.mpr ⟨high, low⟩
  have inside_values := inside.trans_eq (length_plain s)
  simp only [between?, slice?, le_max_right, inside, inside_values, and_self, if_true]
  exact congrArg some (between_eq s first last)

end PlainSeries

namespace DateSeries

variable {α : Type}

theorem between_of_lt (s : DateSeries α) {first last : Date} (reversed : last < first) :
    s.between first last = .empty := by
  apply ext_mem
  intro a
  rw [mem_samples_between]
  constructor
  · rintro ⟨-, after, before⟩
    exact absurd (Int.le_trans after before) (Int.not_le.mpr reversed)
  · nofun

theorem between_between (s : DateSeries α) (first last first' last' : Date) :
    (s.between first last).between first' last' =
      s.between (max first first') (min last last') := by
  apply ext_mem
  intro a
  simp only [mem_samples_between, Date.max_le_iff, Date.le_min_iff]
  tauto

theorem valueOn?_between (s : DateSeries α) (first last d : Date) :
    (s.between first last).valueOn? d = if first ≤ d ∧ d ≤ last then s.valueOn? d else none := by
  ext v
  rw [valueOn?_eq_some_iff, mem_samples_between, ← valueOn?_eq_some_iff]
  split
  next inside => simp [inside]
  next outside => simp [outside]

variable [Quantity α]

theorem between_multiplyCommon (s other : DateSeries α) (first last : Date) :
    (s.multiplyCommon other).between first last =
      (s.between first last).multiplyCommon other := by
  apply ext_valueOn?
  intro d
  rw [valueOn?_between, valueOn?_multiplyCommon, valueOn?_multiplyCommon, valueOn?_between]
  split <;> rfl

/-- A cut by two dates never looks outside of the stored lists. It keeps exactly the samples with a
date in between, in their order, and none if the dates come in the wrong order. So a cut of a cut is
the cut by the later start and the earlier end, and a lenient product is cut by cutting its first
series. -/
theorem cut_is_a_filter (s : DateSeries α) (first last : Date) :
    s.plain.between? first last = some (s.between first last).plain ∧
    (s.between first last).samples =
      s.samples.filter (fun a => first ≤ a.1 ∧ a.1 ≤ last) ∧
    (last < first → s.between first last = .empty) ∧
    (∀ first' last', (s.between first last).between first' last' =
      s.between (max first first') (min last last')) ∧
    ∀ other, (s.multiplyCommon other).between first last =
      (s.between first last).multiplyCommon other :=
  ⟨PlainSeries.between?_eq s first last, s.samples_between first last, s.between_of_lt,
    s.between_between first last, fun other => s.between_multiplyCommon other first last⟩

theorem cut_of_twoDays :
    twoDays.plain.between? .monday .friday = some ⟨[], []⟩ ∧
      twoDays.between .monday .friday = .empty ∧
      (twoDays.between .friday .friday).between .monday .monday = .empty ∧
      (twoDays.multiplyCommon fridayRate).between .monday .monday =
        (twoDays.between .monday .monday).multiplyCommon fridayRate := by
  obtain ⟨-, -, -, nested, -⟩ := cut_is_a_filter twoDays .friday .friday
  obtain ⟨stored, -, reversed, -, -⟩ := cut_is_a_filter twoDays .monday .friday
  obtain ⟨-, -, -, -, product⟩ := cut_is_a_filter twoDays .monday .monday
  have latest : max Date.friday .monday = .monday := rfl
  have earliest : min Date.friday .monday = .friday := rfl
  have none := reversed (by decide)
  refine ⟨?_, none, ?_, product fridayRate⟩
  · rw [stored, none]
    rfl
  · rw [nested, latest, earliest, none]

end DateSeries

end CurvePnl
