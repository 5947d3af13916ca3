import CurvePnl.Proofs.Cuts
import CurvePnl.Proofs.PlainSeries

/-! # What is stored is the series

Each operation on the stored lists does what it does on series, errors included. So the lists that
it stores belong together, although it does not look.
-/

namespace CurvePnl

namespace Date

theorem compare_eq {d e : Date} : compare d e = compare d.number e.number := rfl

instance : Std.TransOrd Date := inferInstanceAs (Std.TransCmp (compareOn Date.number))

instance : Std.LawfulEqOrd Date where
  eq_of_compare same := Date.ext_number (Int.compare_eq_eq.mp same)

end Date

namespace PlainSeries

variable {α : Type} (s : DateSeries α)

@[simp] theorem dates_plain : s.plain.dates = s.dates := rfl

@[simp] theorem values_plain : s.plain.values = s.values := rfl

@[simp] theorem pairs_plain : s.plain.pairs = s.samples := by
  simp [pairs, DateSeries.dates, DateSeries.values, List.zip_map']

theorem unzip_eq_plain {s : DateSeries α} {l : List (Sample α)} (same : l = s.samples) :
    unzip l = s.plain := by
  subst same
  rfl

theorem length_plain : s.plain.dates.length = s.plain.values.length := by
  simp [DateSeries.dates, DateSeries.values]

theorem pairwise_plain : s.plain.dates.Pairwise (· < ·) := List.pairwise_map.mpr s.increasing

theorem firstDescent?_eq (l : List (Sample α)) :
    firstDescent? l =
      ((l.map (·.1)).zip (l.map (·.1)).tail).find? fun w => ! decide (w.1 < w.2) := by
  induction l with
  | nil => rfl
  | cons a rest ih =>
      cases rest with
      | nil => rfl
      | cons b rest =>
          rw [firstDescent?]
          split
          next later => simpa [later] using ih
          next stale => simp [stale]

theorem new_eq (dates : List Date) (values : List α) :
    new dates values = (DateSeries.new dates values).map DateSeries.plain := by
  unfold new DateSeries.new
  split
  next sameLength =>
    have first : (dates.zip values).map (·.1) = dates := List.map_fst_zip (Nat.le_of_eq sameLength)
    have second : (dates.zip values).map (·.2) = values :=
      List.map_snd_zip (Nat.le_of_eq sameLength.symm)
    have checked := firstDescent?_eq (dates.zip values)
    rw [first] at checked
    rw [← checked]
    unfold DateSeries.ofSamples
    split
    next descent =>
      split
      next none => simp [none] at descent
      next some =>
        rw [some, Option.some.injEq] at descent
        cases descent
        rfl
    next none =>
      split
      · simp [Except.map, DateSeries.plain, DateSeries.dates, DateSeries.values, first, second]
      next some => simp [some] at none
  · rfl

theorem ofPairs_eq (l : List (Sample α)) :
    ofPairs l = (DateSeries.ofSamples l).map DateSeries.plain := by
  have zipped : (l.map (·.1)).zip (l.map (·.2)) = l := by simp [List.zip_map']
  rw [ofPairs, new_eq, DateSeries.new, if_pos (by simp), zipped]

theorem ofJson_eq (v : Json) : ofJson v = DateSeries.plain <$> DateSeries.ofJson v := by
  have checked (x : Except ValueError (DateSeries Float)) :
      Decode.ofExcept (x.map DateSeries.plain) = DateSeries.plain <$> Decode.ofExcept x := by
    cases x <;> rfl
  simp only [ofJson, DateSeries.ofJson, new_eq, checked, map_bind]

theorem ofText_eq (text : String) :
    Decode.ofText ofJson text = DateSeries.plain <$> Decode.ofText DateSeries.ofJson text :=
  Decode.ofText_map ofJson_eq text

theorem slice_eq (first last : Nat) :
    s.plain.slice first last = unzip ((s.samples.take last).drop first) := by
  simp [slice, unzip, DateSeries.dates, DateSeries.values, List.map_take, List.map_drop]

theorem tailFrom_eq (n : Nat) : s.plain.tailFrom n = (s.tailFrom n).plain := by
  have length : s.plain.dates.length = s.samples.length := by simp [DateSeries.dates]
  rw [tailFrom, slice_eq, length, List.take_length]
  refine unzip_eq_plain ?_
  change _ = s.samples.drop n
  rcases Nat.le_total n s.samples.length with inside | outside
  · rw [Nat.min_eq_left inside]
  · rw [Nat.min_eq_right outside, List.drop_of_length_le outside, List.drop_length]

theorem partitionPoint_dates {p : Date → Bool}
    (split : ∀ a b, a < b → p a = false → p b = false) :
    partitionPoint p s.dates = s.samples.findIdx fun a => ! p a.1 := by
  rw [partitionPoint_eq_findIdx, DateSeries.dates, List.findIdx_map]
  · rfl
  · exact (pairwise_plain s).imp fun {a b} before => split a b before

theorem partitionPoint_before (first : Date) :
    partitionPoint (· < first) s.dates = s.samples.findIdx fun a => ! decide (a.1 < first) :=
  partitionPoint_dates s fun a b before late => by
    simp only [decide_eq_false_iff_not, Date.lt_def] at late before ⊢
    omega

theorem partitionPoint_upTo (last : Date) :
    partitionPoint (· ≤ last) s.dates = s.samples.findIdx fun a => ! decide (a.1 ≤ last) :=
  partitionPoint_dates s fun a b before late => by
    simp only [decide_eq_false_iff_not, Date.lt_def, Date.le_def] at late before ⊢
    omega

theorem takeWhile_drop {β : Type} {p : β → Bool} {l : List β}
    (split : l.Pairwise fun a b => p a = false → p b = false) (n : Nat) :
    (l.drop n).takeWhile p = (l.drop n).take (l.findIdx (! p ·) - n) := by
  induction l generalizing n with
  | nil => simp
  | cons a rest ih =>
      cases n with
      | zero =>
          rw [List.takeWhile_eq_take_findIdx_not]
          rfl
      | succ n =>
          obtain ⟨falls, split⟩ := List.pairwise_cons.mp split
          rw [List.drop_succ_cons, ih split, List.findIdx_cons]
          cases first : p a with
          | true => simp
          | false =>
              have none : rest.findIdx (! p ·) = 0 := by
                cases rest with
                | nil => rfl
                | cons b rest => simp [List.findIdx_cons, falls b List.mem_cons_self first]
              simp [none]

theorem between_eq (first last : Date) :
    s.plain.between first last = (s.between first last).plain := by
  have cut := takeWhile_drop (p := fun a : Sample α => a.1 ≤ last) (l := s.samples) ?_
  · rw [between, slice_eq, dates_plain, partitionPoint_before, partitionPoint_upTo]
    refine unzip_eq_plain ?_
    change _ = (s.samples.dropWhile (·.1 < first)).takeWhile (·.1 ≤ last)
    rw [List.dropWhile_eq_drop_findIdx_not, cut, List.drop_take]
    congr 1
    omega
  · refine s.increasing.imp fun {a b} before late => ?_
    simp only [decide_eq_false_iff_not, Date.lt_def, Date.le_def] at late before ⊢
    omega

theorem lastIdx?_map {β γ : Type} (f : β → γ) (p : γ → Bool) (l : List β) :
    lastIdx? p (l.map f) = lastIdx? (fun b => p (f b)) l := by
  induction l with
  | nil => rfl
  | cons b rest ih => simp only [List.map_cons, lastIdx?, ih]

theorem lastIdx?_eq_none {β : Type} {p : β → Bool} {l : List β} :
    lastIdx? p l = none ↔ ∀ b ∈ l, p b = false := by
  induction l with
  | nil => simp [lastIdx?]
  | cons b rest ih =>
      rw [List.forall_mem_cons, ← ih, lastIdx?]
      cases lastIdx? p rest with
      | some i => simp
      | none => cases p b <;> simp

/-- The base of a trimmed series is its last sample before the start. -/
theorem baseAndAfter_eq_drop {start : Date} {l : List (Sample α)}
    (increasing : l.Pairwise fun a b => a.1 < b.1) :
    baseAndAfter start l = l.drop ((lastIdx? (·.1 < start) l).getD 0) := by
  induction l with
  | nil => rfl
  | cons a rest ih =>
      cases rest with
      | nil =>
          cases early : decide (a.1 < start) <;> simp [baseAndAfter, lastIdx?, early]
      | cons b rest =>
          have rest_increasing := (List.pairwise_cons.mp increasing).2
          rw [lastIdx?, baseAndAfter]
          split
          next more =>
            rw [ih rest_increasing]
            cases found : lastIdx? (·.1 < start) (b :: rest) with
            | some i => rfl
            | none =>
                have late := lastIdx?_eq_none.mp found b List.mem_cons_self
                simp [more] at late
          next base =>
            have late := late_of_cons rest_increasing base
            have none : lastIdx? (·.1 < start) (b :: rest) = none := by
              refine lastIdx?_eq_none.mpr fun c member => decide_eq_false ?_
              exact Int.not_lt.mpr (late c member)
            rw [none]
            cases decide (a.1 < start) <;> simp

theorem trimTo_eq (start : Date) : s.plain.trimTo start = (s.trimTo start).plain := by
  have base : lastIdx? (· < start) s.plain.dates = lastIdx? (·.1 < start) s.samples :=
    lastIdx?_map _ _ _
  have kept : (s.trimTo start).samples = _ := baseAndAfter_eq_drop s.increasing
  rw [trimTo, base]
  cases found : lastIdx? (·.1 < start) s.samples with
  | some i =>
      dsimp only
      rw [tailFrom_eq]
      exact congrArg DateSeries.plain (DateSeries.ext_samples (by rw [kept, found]; rfl))
  | none =>
      exact congrArg DateSeries.plain (DateSeries.ext_samples (by rw [kept, found]; rfl))

theorem searchBy_dates {d : Date} {i : Nat} :
    searchBy (compare · d) s.dates = .ok i ↔ s.dates[i]? = some d := by
  have ordered : StrictlyOrdered (compare · d) s.dates := by
    refine (pairwise_plain s).imp fun {a b} before reached => ?_
    simp only [Date.compare_eq, ne_eq, Int.compare_eq_lt, Int.compare_eq_gt] at reached ⊢
    rw [Date.lt_def] at before
    omega
  rw [searchBy_eq_ok_iff ordered]
  constructor
  · rintro ⟨e, here, equal⟩
    rw [Date.compare_eq, Int.compare_eq_eq] at equal
    rw [here, Date.ext_number equal]
  · intro here
    exact ⟨d, here, Int.compare_eq_eq.mpr rfl⟩

theorem valueOn?_eq (d : Date) : s.plain.valueOn? d = s.valueOn? d := by
  rw [valueOn?, dates_plain]
  cases found : searchBy (compare · d) s.dates with
  | ok i =>
      have here := (searchBy_dates s).mp found
      rw [DateSeries.dates, List.getElem?_map, Option.map_eq_some_iff] at here
      obtain ⟨a, here, rfl⟩ := here
      have value : s.valueOn? a.1 = some a.2 :=
        DateSeries.valueOn?_eq_some_iff.mpr (List.mem_of_getElem? here)
      simp [value, DateSeries.values, here]
  | error i =>
      dsimp only
      cases value : s.valueOn? d with
      | none => rfl
      | some v =>
          obtain ⟨k, here⟩ :=
            List.mem_iff_getElem?.mp (DateSeries.valueOn?_eq_some_iff.mp value)
          have found' : searchBy (compare · d) s.dates = .ok k :=
            (searchBy_dates s).mpr (by simp [DateSeries.dates, here])
          rw [found] at found'
          cases found'

theorem push_eq (d : Date) (v : α) : s.plain.push d v = (s.push d v).map DateSeries.plain := by
  have pushed (later : ∀ a ∈ s.samples, a.1 < d) :
      (s.push d v).map DateSeries.plain = .ok ⟨s.dates ++ [d], s.values ++ [v]⟩ := by
    obtain ⟨t, ok⟩ := DateSeries.exists_push v later
    rw [ok]
    simp [Except.map, DateSeries.plain, DateSeries.dates, DateSeries.values,
      DateSeries.samples_push ok]
  have ends : s.plain.dates.getLast? = s.lastDate? := List.getLast?_map
  rw [push, ends]
  cases final : s.lastDate? with
  | none =>
      have none : s.samples = [] := by simpa [DateSeries.lastDate?] using final
      exact (pushed (by simp [none])).symm
  | some last =>
      dsimp only
      split
      next later =>
        refine (pushed fun a member => ?_).symm
        obtain ⟨last', final', order⟩ := DateSeries.exists_lastDate member
        rw [final, Option.some.injEq] at final'
        subst final'
        exact Int.lt_of_le_of_lt order later
      next stale => rw [DateSeries.push_of_stale final (Int.not_lt.mp stale)]; rfl

section Quantities

variable [Quantity α]

omit [Quantity α] in
theorem mapValues_eq (f : α → α) :
    (⟨s.dates, s.values.map f⟩ : PlainSeries α) = (s.mapValues f).plain := by
  simp [DateSeries.plain, DateSeries.dates, DateSeries.values, DateSeries.mapValues]

theorem scale_eq (factor : α) : s.plain.scale factor = (s.scale factor).plain :=
  mapValues_eq s _

theorem reciprocal_eq : s.plain.reciprocal = s.reciprocal.map DateSeries.plain := by
  unfold reciprocal DateSeries.reciprocal
  rw [pairs_plain]
  cases s.samples.find? fun a => Quantity.isZero a.2 with
  | some a => rfl
  | none => exact congrArg Except.ok (mapValues_eq s _)

theorem mapM_factor (other : DateSeries α) (context : String) (l : List (Sample α)) :
    l.mapM (other.plain.factor context) =
      (DateSeries.alignedProducts other context l).map (·.map (·.2)) := by
  induction l with
  | nil => rfl
  | cons a rest ih =>
      rw [List.mapM_cons, ih, DateSeries.alignedProducts, factor, valueOn?_eq]
      cases other.valueOn? a.1 with
      | none => rfl
      | some factor => cases DateSeries.alignedProducts other context rest <;> rfl

theorem samples_multiplyAligned (other : DateSeries α) (context : String) :
    (s.multiplyAligned other context).map DateSeries.samples =
      DateSeries.alignedProducts other context s.samples := by
  unfold DateSeries.multiplyAligned
  split
  next e failed => exact failed.symm
  next l products => exact products.symm

theorem multiplyAligned_eq (other : DateSeries α) (context : String) :
    s.plain.multiplyAligned other.plain context =
      (s.multiplyAligned other context).map DateSeries.plain := by
  rw [multiplyAligned, pairs_plain, mapM_factor, ← samples_multiplyAligned]
  cases products : s.multiplyAligned other context with
  | error e => rfl
  | ok t =>
      have dates := (DateSeries.multiplyAligned_eq_ok.mp products).dates_eq
      rw [dates_plain, ← dates]
      rfl

theorem multiplyCommon_eq (other : DateSeries α) :
    s.plain.multiplyCommon other.plain = (s.multiplyCommon other).plain := by
  simp only [multiplyCommon, pairs_plain, valueOn?_eq]
  rfl

omit [Quantity α] in
theorem lookup_cons_eq_ite (a : Sample α) (rest : List (Sample α)) (e : Date) :
    (a :: rest).lookup e = if e = a.1 then some a.2 else rest.lookup e := by
  obtain ⟨d, v⟩ := a
  rw [List.lookup_cons]
  by_cases same : e = d
  · simp [same]
  · simp only [beq_eq_false_iff_ne.mpr same, if_neg same]

omit [Quantity α] in
theorem lookup_of_early {l : List (Sample α)} {d : Date} (early : ∀ a ∈ l, d < a.1) :
    l.lookup d = none := by
  rw [List.lookup_eq_none_iff]
  intro a member
  rw [bne_iff_ne]
  rintro rfl
  exact Int.lt_irrefl _ (early a member)

theorem lookup_addOnDate {l : List (Sample α)} (increasing : l.Pairwise fun a b => a.1 < b.1)
    (d e : Date) (v : α) :
    (addOnDate d v l).lookup e =
      if e = d then some ((l.lookup d).getD Quantity.zero + v) else l.lookup e := by
  induction l with
  | nil => simp [addOnDate, lookup_cons_eq_ite]
  | cons a rest ih =>
      obtain ⟨first, rest_increasing⟩ := List.pairwise_cons.mp increasing
      have ih := ih rest_increasing
      unfold addOnDate
      split
      next before =>
        have early : ∀ b ∈ a :: rest, d < b.1 :=
          List.forall_mem_cons.mpr ⟨before, fun b member => Date.lt_trans before (first b member)⟩
        rw [lookup_cons_eq_ite, lookup_of_early early]
        rfl
      next from_d =>
        split
        next after =>
          have other : d ≠ a.1 := by
            rintro rfl
            exact Int.lt_irrefl _ after
          rw [lookup_cons_eq_ite, ih, lookup_cons_eq_ite a, lookup_cons_eq_ite a, if_neg other]
          by_cases same : e = a.1
          · rw [if_pos same, if_pos same, if_neg (same ▸ other.symm)]
          · rw [if_neg same, if_neg same]
        next to_d =>
          have same : d = a.1 := Date.ext_number (by
            rw [Date.lt_def] at from_d to_d
            omega)
          subst same
          simp only [lookup_cons_eq_ite, if_true]
          by_cases same : e = a.1
          · simp [same]
          · simp [same]

/-- A map with the totals of a series. -/
def Totals (totals : Std.TreeMap Date α) (s : DateSeries α) : Prop :=
  ∀ d : Date, totals[d]? = s.valueOn? d

theorem totals_addAll {totals : Std.TreeMap Date α} {t : DateSeries α} (same : Totals totals t) :
    Totals (addAll totals s.plain) (t.addAll s) := by
  rw [addAll, pairs_plain, DateSeries.addAll]
  induction s.samples generalizing totals t with
  | nil => exact same
  | cons a rest ih =>
      rw [List.foldl_cons, List.foldl_cons]
      refine ih fun d => ?_
      rw [Std.TreeMap.getElem?_alter, DateSeries.valueOn?, lookup_addOnDate t.increasing, same,
        same]
      simp only [Std.compare_eq_iff_eq, eq_comm (a := d)]
      rfl

omit [Quantity α] in
theorem toList_of_totals {totals : Std.TreeMap Date α} {t : DateSeries α} (same : Totals totals t) :
    totals.toList = t.samples := by
  have increasing : totals.toList.Pairwise fun a b => a.1 < b.1 :=
    Std.TreeMap.ordered_keys_toList.imp fun {a b} before =>
      Int.compare_eq_lt.mp (Date.compare_eq.symm.trans before)
  have rebuilt : (⟨totals.toList, increasing⟩ : DateSeries α) = t := DateSeries.ext_mem fun a => by
    rw [Std.TreeMap.mem_toList_iff_getElem?_eq_some, same, DateSeries.valueOn?_eq_some_iff]
  rw [← rebuilt]

theorem total_eq (m : PnlMatrix α) : total (m.series.map DateSeries.plain) = m.total.plain := by
  have folded (l : List (DateSeries α)) {totals : Std.TreeMap Date α} {t : DateSeries α}
      (same : Totals totals t) :
      Totals ((l.map DateSeries.plain).foldl addAll totals) (l.foldl DateSeries.addAll t) := by
    induction l generalizing totals t with
    | nil => exact same
    | cons s rest ih => exact ih (totals_addAll s same)
  have none : Totals (∅ : Std.TreeMap Date α) .empty := fun d => Std.TreeMap.getElem?_emptyc
  exact unzip_eq_plain (toList_of_totals (folded m.series none))

omit [Quantity α] in
theorem windows_plain : s.plain.windows =
    (s.samples.zip s.samples.tail).map fun w => ((w.1.1, w.2.1), w.1.2, w.2.2) := by
  rw [windows, dates_plain, values_plain, DateSeries.dates, DateSeries.values, ← List.map_tail,
    ← List.map_tail, List.zip_map, List.zip_map, List.zip_map']
  rfl

theorem mapM_move_absolute (l : List (Sample α)) :
    ((l.zip l.tail).map fun w => ((w.1.1, w.2.1), w.1.2, w.2.2)).mapM (move .absolute) =
      .ok (absoluteMoves l) := by
  induction l with
  | nil => rfl
  | cons a rest ih =>
      cases rest with
      | nil => rfl
      | cons b rest =>
          rw [List.tail_cons] at ih ⊢
          rw [List.zip_cons_cons, List.map_cons, List.mapM_cons, ih, absoluteMoves]
          rfl

theorem mapM_move_relative (l : List (Sample α)) :
    ((l.zip l.tail).map fun w => ((w.1.1, w.2.1), w.1.2, w.2.2)).mapM (move .relative) =
      relativeMoves l := by
  induction l with
  | nil => rfl
  | cons a rest ih =>
      cases rest with
      | nil => rfl
      | cons b rest =>
          rw [List.tail_cons] at ih ⊢
          rw [List.zip_cons_cons, List.map_cons, List.mapM_cons, ih, relativeMoves]
          cases zero : Quantity.isZero a.2 with
          | true =>
              simp only [move, zero]
              rfl
          | false =>
              simp only [move, zero, Bool.false_eq_true, and_false, if_false]
              cases relativeMoves (b :: rest) <;> rfl

theorem returns_eq (kind : ReturnKind) :
    s.plain.returns kind = (s.returns kind).map DateSeries.plain := by
  have rebuilt (moves : List (Sample α)) : (ofPairs moves).mapError SourceError.ofValueError =
      (DateSeries.ofMoves moves).map DateSeries.plain := by
    rw [ofPairs_eq, DateSeries.ofMoves]
    cases DateSeries.ofSamples moves <;> rfl
  rw [returns, windows_plain]
  cases kind with
  | absolute =>
      rw [mapM_move_absolute]
      exact rebuilt _
  | relative =>
      rw [mapM_move_relative, DateSeries.returns]
      cases relativeMoves s.samples with
      | error e => rfl
      | ok moves => exact rebuilt moves

end Quantities

end PlainSeries

end CurvePnl
