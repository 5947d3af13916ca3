import CurvePnl.Attribution.Matching
import CurvePnl.JsonForm
import Mathlib.Data.List.Induction
import Mathlib.Data.List.Nodup
import Mathlib.Data.Prod.Basic

/-! # Bundles and how they are built

A bundle is built by insertions or decoded from a document. An insertion replaces the entry of its
curve and currency where it stands, and otherwise adds an entry at the end. So insertions leave of
each curve and currency the last entry, in the order of the first ones. A document is decoded as it
stands, with its repetitions.
-/

namespace CurvePnl

variable {α : Type}

deriving instance DecidableEq for SensitivityEntry, SensitivityBundle

/-- What an entry is for: a curve, in a currency. -/
def SensitivityEntry.key (e : SensitivityEntry α) : CurveName × Currency := (e.curve, e.currency)

namespace SensitivityBundle

/-- The bundle after these insertions, one after the other. -/
def insertAll (b : SensitivityBundle α) (entries : List (SensitivityEntry α)) :
    SensitivityBundle α :=
  entries.foldl (fun b e => b.insert e.curve e.currency e.vector) b

/-- The bundle that these insertions build. -/
def ofInsertions (entries : List (SensitivityEntry α)) : SensitivityBundle α :=
  empty.insertAll entries

/-- No curve has two entries in one currency. -/
def Keyed (b : SensitivityBundle α) : Prop := (b.entries.map (·.key)).Nodup

instance (b : SensitivityBundle α) : Decidable b.Keyed :=
  inferInstanceAs (Decidable (b.entries.map (·.key)).Nodup)

variable {e x : SensitivityEntry α} {l : List (SensitivityEntry α)}

theorem insertEntry_cons (e f : SensitivityEntry α) (l : List (SensitivityEntry α)) :
    insertEntry e (f :: l) = if f.key = e.key then e :: l else f :: insertEntry e l := by
  simp [insertEntry, SensitivityEntry.key]

theorem insertEntry_of_new (new : e.key ∉ l.map (·.key)) : insertEntry e l = l ++ [e] := by
  induction l with
  | nil => rfl
  | cons f l ih =>
      rw [List.map_cons, List.mem_cons, not_or] at new
      rw [insertEntry_cons, if_neg (Ne.symm new.1), ih new.2, List.cons_append]

theorem keys_insertEntry (e : SensitivityEntry α) (l : List (SensitivityEntry α)) :
    (insertEntry e l).map (·.key) =
      if e.key ∈ l.map (·.key) then l.map (·.key) else l.map (·.key) ++ [e.key] := by
  split
  next known =>
    induction l with
    | nil => cases known
    | cons f l ih =>
        rw [insertEntry_cons]
        split
        next same => rw [List.map_cons, List.map_cons, same]
        next other =>
          have later := (List.mem_cons.mp known).resolve_left (Ne.symm other)
          rw [List.map_cons, ih later, List.map_cons]
  next new => rw [insertEntry_of_new new, List.map_append, List.map_singleton]

theorem nodup_insertEntry_iff :
    ((insertEntry e l).map (·.key)).Nodup ↔ (l.map (·.key)).Nodup := by
  rw [keys_insertEntry]
  split
  · rfl
  next new =>
    rw [← List.concat_eq_append, List.nodup_concat]
    exact and_iff_right new

theorem mem_insertEntry (keyed : (l.map (·.key)).Nodup) :
    x ∈ insertEntry e l ↔ x = e ∨ x ∈ l ∧ x.key ≠ e.key := by
  induction l with
  | nil => simp [insertEntry]
  | cons f l ih =>
      obtain ⟨first, others⟩ := List.nodup_cons.mp keyed
      rw [insertEntry_cons]
      split
      next same => grind
      next other => grind

theorem filter_insertEntry (e : SensitivityEntry α) (l : List (SensitivityEntry α))
    (curve : CurveName) :
    (insertEntry e l).filter (·.curve == curve) =
      if e.curve = curve then insertEntry e (l.filter (·.curve == curve))
      else l.filter (·.curve == curve) := by
  induction l with
  | nil =>
      by_cases named : e.curve = curve
      · simp [insertEntry, named]
      · simp [insertEntry, named]
  | cons f l ih =>
      have curves (same : f.key = e.key) : f.curve = e.curve := congrArg Prod.fst same
      rw [insertEntry_cons]
      grind [insertEntry_cons]

@[simp] theorem insertAll_nil (b : SensitivityBundle α) : b.insertAll [] = b := rfl

@[simp] theorem insertAll_cons (b : SensitivityBundle α) (e : SensitivityEntry α)
    (l : List (SensitivityEntry α)) :
    b.insertAll (e :: l) = insertAll ⟨insertEntry e b.entries⟩ l := rfl

theorem entries_ofInsertions_concat (l : List (SensitivityEntry α)) (e : SensitivityEntry α) :
    (ofInsertions (l ++ [e])).entries = insertEntry e (ofInsertions l).entries := by
  rw [ofInsertions, insertAll, List.foldl_concat]
  rfl

/-- Insertions neither make nor undo a repetition. -/
theorem keyed_insertAll_iff {b : SensitivityBundle α} :
    (b.insertAll l).Keyed ↔ b.Keyed := by
  induction l generalizing b with
  | nil => rfl
  | cons e l ih => rw [insertAll_cons, ih, Keyed, nodup_insertEntry_iff, Keyed]

theorem keyed_ofInsertions (l : List (SensitivityEntry α)) : (ofInsertions l).Keyed :=
  keyed_insertAll_iff.mpr List.nodup_nil

theorem insertAll_of_keyed {b : SensitivityBundle α} (keyed : Keyed ⟨b.entries ++ l⟩) :
    b.insertAll l = ⟨b.entries ++ l⟩ := by
  induction l generalizing b with
  | nil => rw [List.append_nil, insertAll_nil]
  | cons e l ih =>
      have new : e.key ∉ b.entries.map (·.key) := by
        intro old
        rw [Keyed, List.map_append, List.nodup_append] at keyed
        exact keyed.2.2 _ old _ List.mem_cons_self rfl
      rw [List.append_cons] at keyed ⊢
      rw [insertAll_cons, insertEntry_of_new new, ih keyed]

theorem ofInsertions_entries_iff {b : SensitivityBundle α} :
    b = ofInsertions b.entries ↔ b.Keyed := by
  constructor
  · intro same
    rw [same]
    exact keyed_ofInsertions _
  · intro keyed
    exact (insertAll_of_keyed (b := empty) keyed).symm

theorem forCurve_insertAll (b : SensitivityBundle α) (l : List (SensitivityEntry α))
    (curve : CurveName) :
    (b.insertAll l).forCurve curve =
      (insertAll ⟨b.forCurve curve⟩ (l.filter (·.curve == curve))).entries := by
  induction l generalizing b with
  | nil => rfl
  | cons e l ih =>
      rw [insertAll_cons, ih, forCurve, filter_insertEntry, List.filter_cons]
      by_cases named : e.curve = curve
      · simp [named, forCurve]
      · simp [named, forCurve]

theorem forCurve_ofInsertions (l : List (SensitivityEntry α)) (curve : CurveName) :
    (ofInsertions l).forCurve curve = (ofInsertions (l.filter (·.curve == curve))).entries :=
  forCurve_insertAll empty l curve

/-- An entry is in the bundle exactly if it is the last insertion for its curve and currency. -/
theorem mem_ofInsertions :
    x ∈ (ofInsertions l).entries ↔ (l.filter (·.key == x.key)).getLast? = some x := by
  induction l using List.reverseRecOn with
  | nil => simp [ofInsertions, empty]
  | append_singleton l e ih =>
      rw [entries_ofInsertions_concat, mem_insertEntry (keyed_ofInsertions l), ih,
        List.filter_append]
      by_cases same : e.key = x.key
      · simp [same, eq_comm]
      · have other : x ≠ e := fun equal => same (congrArg SensitivityEntry.key equal).symm
        simp [same, Ne.symm same, other]

theorem keys_ofInsertions (l : List (SensitivityEntry α)) :
    (ofInsertions l).entries.map (·.key) = (l.map (·.key)).eraseDups := by
  induction l using List.reverseRecOn with
  | nil => rfl
  | append_singleton l e ih =>
      rw [entries_ofInsertions_concat, keys_insertEntry, ih, List.map_append, List.map_singleton,
        List.eraseDups_append, List.cons_removeAll]
      by_cases old : e.key ∈ l.map (·.key)
      · simp [old]
      · simp [old, List.eraseDups_cons]

theorem currencies_matched? (b : SensitivityBundle α) (curve : CurveName) :
    ((b.matched? curve).elim [] fun m => m.currency :: m.ignored) =
      (b.forCurve curve).map (·.currency) := by
  unfold matched?
  cases b.forCurve curve with
  | nil => rfl
  | cons entry rest => rfl

theorem matched?_congr {b b' : SensitivityBundle α} {curve : CurveName}
    (same : b.forCurve curve = b'.forCurve curve) : b.matched? curve = b'.matched? curve := by
  rw [matched?, matched?, same]

theorem keys_of_curve {curve : CurveName} (named : ∀ e ∈ l, e.curve = curve) :
    l.map (·.key) = (l.map (·.currency)).map (Prod.mk curve) := by
  rw [List.map_map, List.map_inj_left]
  intro e member
  exact Prod.ext (named e member) rfl

theorem curve_of_mem_forCurve {b : SensitivityBundle α} {curve : CurveName}
    (member : e ∈ b.forCurve curve) : e.curve = curve :=
  beq_iff_eq.mp (List.mem_filter.mp member).2

theorem keyed_forCurve_iff {b : SensitivityBundle α} {curve : CurveName} :
    Keyed ⟨b.forCurve curve⟩ ↔ ((b.forCurve curve).map (·.currency)).Nodup := by
  rw [Keyed, keys_of_curve fun e => curve_of_mem_forCurve,
    List.nodup_map_iff (Prod.mk_right_injective curve)]

theorem Keyed.forCurve {b : SensitivityBundle α} (keyed : b.Keyed) (curve : CurveName) :
    Keyed ⟨b.forCurve curve⟩ :=
  List.Nodup.sublist (List.filter_sublist.map _) keyed

/-- A bundle is matched as its entries would be after insertions in order, exactly if the entries
of the curve repeat no currency. -/
theorem matched?_eq_ofInsertions_iff {b : SensitivityBundle α} {curve : CurveName} :
    b.matched? curve = (ofInsertions b.entries).matched? curve ↔
      ((b.forCurve curve).map (·.currency)).Nodup := by
  constructor
  · intro same
    rw [← currencies_matched?, same, currencies_matched?, ← keyed_forCurve_iff]
    exact (keyed_ofInsertions b.entries).forCurve curve
  · intro distinct
    refine matched?_congr ?_
    have own := ofInsertions_entries_iff.mpr (keyed_forCurve_iff.mpr distinct)
    exact (congrArg entries own).trans (forCurve_ofInsertions b.entries curve).symm

end SensitivityBundle

theorem Decode.ofText_eq_ok {value : Json → Decoded α} {text : String} {a : α} :
    Decode.ofText value text = .ok a ↔ ∃ v, Json.parse? text = some v ∧ value v = .ok a := by
  unfold Decode.ofText Json.parse?
  obtain ⟨read, whole⟩ := Json.readText text
  cases read with
  | none => cases whole <;> simp [Decode.ofOption, Decode.refuse, bind, Except.bind]
  | some v =>
      cases decoded : value v <;> cases whole <;>
        simp [Decode.ofOption, Decode.refuse, bind, Except.bind, pure, Except.pure, decoded]

namespace SensitivityBundle

theorem ofJson_eq_ok {v : Json} {b : SensitivityBundle Float} :
    ofJson v = .ok b ↔ ∃ items, v = .array items ∧ items.mapM entryOfJson = .ok b.entries := by
  obtain ⟨entries⟩ := b
  unfold ofJson Decode.list
  cases v with
  | array items =>
      cases decoded : items.mapM entryOfJson <;>
        simp [bind, Except.bind, pure, Except.pure, decoded]
  | _ => simp [Decode.refuse, bind, Except.bind]

/-- Insertions never give a curve two entries in one currency. A document is decoded as it stands:
further insertions keep its repetitions, and it comes to the same as insertions of its entries in
order exactly if it repeats nothing. A curve is matched alike exactly if none of its currencies is
repeated. -/
theorem decoded_is_inserted_iff (l : List (SensitivityEntry Float)) :
    (ofInsertions l).Keyed ∧
    ∀ (text : String) (b : SensitivityBundle Float), Decode.ofText ofJson text = .ok b →
      (∃ items, Json.parse? text = some (.array items) ∧
        items.mapM entryOfJson = .ok b.entries) ∧
      ((b.insertAll l).Keyed ↔ b.Keyed) ∧
      (b = ofInsertions b.entries ↔ b.Keyed) ∧
      ∀ curve, b.matched? curve = (ofInsertions b.entries).matched? curve ↔
        ((b.forCurve curve).map (·.currency)).Nodup := by
  refine ⟨keyed_ofInsertions l, ?_⟩
  intro text b decoded
  refine ⟨?_, keyed_insertAll_iff, ofInsertions_entries_iff,
    fun curve => matched?_eq_ofInsertions_iff⟩
  obtain ⟨v, parsed, value⟩ := Decode.ofText_eq_ok.mp decoded
  obtain ⟨items, rfl, entries⟩ := ofJson_eq_ok.mp value
  exact ⟨items, parsed, entries⟩

/-- Sensitivities to a curve in two currencies, each written as the array of its fields. -/
def twoCurrencies : String := "[[\"USD-OIS\",\"USD\",[1]],[\"USD-OIS\",\"EUR\",[2]]]"

theorem decoded_twoCurrencies :
    Decode.ofText ofJson twoCurrencies =
        .ok ⟨[⟨"USD-OIS", .usd, [1.0]⟩, ⟨"USD-OIS", .eur, [2.0]⟩]⟩ ∧
      (⟨[⟨"USD-OIS", .usd, [1.0]⟩, ⟨"USD-OIS", .eur, [2.0]⟩]⟩ : SensitivityBundle Float) =
        ofInsertions [⟨"USD-OIS", .usd, [1.0]⟩, ⟨"USD-OIS", .eur, [2.0]⟩] := by
  have decoded : Decode.ofText ofJson twoCurrencies =
      .ok ⟨[⟨"USD-OIS", .usd, [1.0]⟩, ⟨"USD-OIS", .eur, [2.0]⟩]⟩ := by
    decide +kernel
  exact ⟨decoded, ((decoded_is_inserted_iff []).2 _ _ decoded).2.2.1.mpr (by decide)⟩

/-- Two vectors for one curve in one currency. -/
def givenTwice : String := "[[\"USD-OIS\",\"USD\",[1]],[\"USD-OIS\",\"USD\",[2]]]"

/-- Not every decoded bundle could have been inserted: of a repetition both entries stay, and the
first one is matched where the last one would count. -/
theorem not_forall_decoded_keyed :
    ¬ (∀ (text : String) (b : SensitivityBundle Float), Decode.ofText ofJson text = .ok b →
        b.Keyed) ∧
      ¬ (∀ (text : String) (b : SensitivityBundle Float), Decode.ofText ofJson text = .ok b →
        b = ofInsertions b.entries) ∧
      ¬ ∀ (text : String) (b : SensitivityBundle Float) (curve : CurveName),
        Decode.ofText ofJson text = .ok b →
          b.matched? curve = (ofInsertions b.entries).matched? curve := by
  have decoded : Decode.ofText ofJson givenTwice =
      .ok ⟨[⟨"USD-OIS", .usd, [1.0]⟩, ⟨"USD-OIS", .usd, [2.0]⟩]⟩ := by
    decide +kernel
  refine ⟨fun keyed => ?_, fun inserted => ?_, fun alike => ?_⟩
  · exact absurd (keyed _ _ decoded) (by decide)
  · have sizes := congrArg (·.entries.length) (inserted _ _ decoded)
    exact absurd sizes (by decide)
  · have ignored := congrArg (·.map (·.ignored)) (alike _ _ "USD-OIS" decoded)
    exact absurd ignored (by decide)

end SensitivityBundle

end CurvePnl
