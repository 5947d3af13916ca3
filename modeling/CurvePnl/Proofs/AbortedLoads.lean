import CurvePnl.Proofs.TenorText
import CurvePnl.Store.ImpliedCurves
import CurvePnl.Store.Specifications

/-! # Loads that abort

A decoder aborts only at a tenor, and only at a text that ends in a character of several bytes. So
a load that aborts has such a text in its file.
-/

namespace CurvePnl

/-- A text stands somewhere in a document. -/
inductive Json.Holds (s : String) : Json → Prop where
  | text : Holds s (.text s)
  | item {v : Json} {items : List Json} (member : v ∈ items) (inner : Holds s v) :
      Holds s (.array items)
  | value {name : Option String} {v : Json} {members : List (Option String × Json)}
      (member : (name, v) ∈ members) (inner : Holds s v) : Holds s (.object members)

namespace Decode

/-- If a result is an abort, one of the values holds a text that no unit can be cut from. -/
def Blames (values : List Json) (r : Decoded α) : Prop :=
  r = .error .aborted → ∃ v ∈ values, ∃ s, v.Holds s ∧ Tenor.EndsWide s

theorem blames_of_ok (values : List Json) (a : α) : Blames values (.ok a) := nofun

theorem blames_refuse (values : List Json) : Blames values (refuse : Decoded α) := nofun

theorem blames_ofOption (values : List Json) : (o : Option α) → Blames values (ofOption o)
  | none => blames_refuse values
  | some a => blames_of_ok values a

theorem Blames.bind {values : List Json} {r : Decoded α} {f : α → Decoded β}
    (first : Blames values r) (next : ∀ a, r = .ok a → Blames values (f a)) :
    Blames values (r >>= f) := by
  cases r with
  | ok a => exact next a rfl
  | error h =>
      intro aborted
      cases aborted
      exact first rfl

theorem Blames.map {values : List Json} {r : Decoded α} (blames : Blames values r) (f : α → β) :
    Blames values (r.map f) := by
  cases r with
  | ok a => exact blames_of_ok values _
  | error h =>
      intro aborted
      cases aborted
      exact blames rfl

theorem Blames.of_subset {inner outer : List Json} {r : Decoded α} (blames : Blames inner r)
    (subset : inner ⊆ outer) : Blames outer r := by
  intro aborted
  obtain ⟨v, member, wide⟩ := blames aborted
  exact ⟨v, subset member, wide⟩

/-- Parts of a value pass their blame to the value. -/
theorem Blames.within {parts : List Json} {whole : Json} {r : Decoded α} (blames : Blames parts r)
    (held : ∀ v ∈ parts, ∀ s, v.Holds s → whole.Holds s) : Blames [whole] r := by
  intro aborted
  obtain ⟨v, member, s, inside, wide⟩ := blames aborted
  exact ⟨whole, List.mem_singleton_self _, s, held v member s inside, wide⟩

theorem blames_text (v : Json) : Blames [v] (text v) := by
  unfold text
  split
  · exact blames_of_ok _ _
  · exact blames_refuse _

theorem blames_optional {value : Json → Decoded α} (inner : ∀ v, Blames [v] (value v)) (v : Json) :
    Blames [v] (optional value v) := by
  unfold optional
  split
  · exact blames_of_ok _ _
  · exact (inner v).map _

theorem ofHalting_eq_aborted_iff {r : Except (Halt ε) α} :
    ofHalting r = .error .aborted ↔ r = .error .aborted := by
  rcases r with (_ | _) | _ <;> simp [ofHalting, Halt.map]

theorem blames_mapM {item : Json → Decoded α} (inner : ∀ v, Blames [v] (item v)) (vs : List Json) :
    Blames vs (vs.mapM item) := by
  induction vs with
  | nil => exact blames_of_ok _ _
  | cons v vs ih =>
      rw [List.mapM_cons]
      have head : Blames (v :: vs) (item v) := (inner v).of_subset (by simp)
      have tail : Blames (v :: vs) (vs.mapM item) := ih.of_subset (by simp)
      exact head.bind fun a _ => tail.bind fun as _ => blames_of_ok _ _

theorem blames_list {item : Json → Decoded α} (inner : ∀ v, Blames [v] (item v)) (v : Json) :
    Blames [v] (list item v) := by
  unfold list
  split
  next items => exact (blames_mapM inner items).within fun v member s held => .item member held
  · exact blames_refuse _

variable {fields : List Field}

/-- The values of members. -/
def valuesOf (members : List (ν × Json)) : List Json := members.map Prod.snd

theorem blames_membersOf (checks : ∀ f ∈ fields, ∀ v, Blames [v] (f.check v))
    (known : List (String × Json)) (members : List (Option String × Json)) :
    Blames (valuesOf members) (membersOf fields known members) := by
  fun_induction membersOf fields known members with
  | case1 known => exact blames_of_ok _ _
  | case2 => exact blames_refuse _
  | case3 known name v rest unknown ih => exact ih.of_subset (List.subset_cons_self _ _)
  | case4 => exact blames_refuse _
  | case5 known name v rest f found fresh ih =>
      have head : Blames (v :: valuesOf rest) (f.check v) :=
        (checks f (List.mem_of_find?_eq_some found) v).of_subset (by simp)
      exact head.bind fun _ _ => ih.of_subset (List.subset_cons_self _ _)

theorem valuesOf_membersOf {known read : List (String × Json)}
    {members : List (Option String × Json)} (ok : membersOf fields known members = .ok read) :
    valuesOf read ⊆ valuesOf known ++ valuesOf members := by
  fun_induction membersOf fields known members with
  | case1 known =>
      cases ok
      simp
  | case2 => cases ok
  | case3 known name v rest unknown ih =>
      refine List.Subset.trans (ih ok) ?_
      simp [valuesOf]
  | case4 => cases ok
  | case5 known name v rest f found fresh ih =>
      cases checked : f.check v with
      | error h =>
          rw [checked] at ok
          cases ok
      | ok a =>
          rw [checked] at ok
          simpa [valuesOf] using ih ok

theorem blames_itemsOf (checks : ∀ f ∈ fields, ∀ v, Blames [v] (f.check v)) (items : List Json) :
    Blames items (itemsOf fields items) := by
  fun_induction itemsOf fields items with
  | case1 => exact blames_of_ok _ _
  | case2 => exact blames_refuse _
  | case3 f fields trailing ih => exact ih (List.forall_mem_cons.mp checks).2
  | case4 => exact blames_refuse _
  | case5 f fields v vs ih =>
      obtain ⟨first, others⟩ := List.forall_mem_cons.mp checks
      have head : Blames (v :: vs) (f.check v) := (first v).of_subset (by simp)
      have tail : Blames (v :: vs) (itemsOf fields vs) := (ih others).of_subset (by simp)
      exact head.bind fun _ _ => tail.bind fun _ _ => blames_of_ok _ _

theorem valuesOf_itemsOf {items : List Json} {read : List (String × Json)}
    (ok : itemsOf fields items = .ok read) : valuesOf read ⊆ items := by
  fun_induction itemsOf fields items generalizing read with
  | case1 =>
      cases ok
      simp [valuesOf]
  | case2 => cases ok
  | case3 f fields trailing ih => exact ih ok
  | case4 => cases ok
  | case5 f fields v vs ih =>
      cases checked : f.check v with
      | error h =>
          rw [checked] at ok
          cases ok
      | ok a =>
          cases others : itemsOf fields vs with
          | error h =>
              rw [checked, others] at ok
              cases ok
          | ok known =>
              rw [checked, others] at ok
              cases ok
              have rest := List.Subset.trans (ih others) (List.subset_cons_self v vs)
              exact List.cons_subset.mpr ⟨List.mem_cons_self, rest⟩

theorem blames_record (checks : ∀ f ∈ fields, ∀ v, Blames [v] (f.check v))
    {build : List (String × Json) → Decoded α}
    (builds : ∀ known, Blames (valuesOf known) (build known)) (v : Json) :
    Blames [v] (record fields v >>= build) := by
  cases v with
  | object members =>
      have whole : ∀ w ∈ valuesOf members, ∀ s, w.Holds s → (Json.object members).Holds s := by
        intro w among s held
        obtain ⟨⟨name, w⟩, member, rfl⟩ := List.mem_map.mp among
        exact .value member held
      exact ((blames_membersOf checks [] members).bind fun known ok =>
        (builds known).of_subset (valuesOf_membersOf ok)).within whole
  | array items =>
      exact ((blames_itemsOf checks items).bind fun known ok =>
        (builds known).of_subset (valuesOf_itemsOf ok)).within fun w member s held =>
          .item member held
  | _ => exact blames_refuse _

theorem blames_lookup {value : Json → Decoded α} (inner : ∀ v, Blames [v] (value v))
    {known : List (String × Json)} {name : String} {v : Json}
    (found : known.lookup name = some v) : Blames (valuesOf known) (value v) := by
  obtain ⟨before, after, rfl, -⟩ := List.lookup_eq_some_iff.mp found
  exact (inner v).of_subset (by simp [valuesOf])

theorem blames_required {value : Json → Decoded α} (inner : ∀ v, Blames [v] (value v))
    (known : List (String × Json)) (name : String) :
    Blames (valuesOf known) (required known name value) := by
  unfold required
  split
  next v found => exact blames_lookup inner found
  · exact blames_refuse _

theorem blames_defaulted {value : Json → Decoded α} (inner : ∀ v, Blames [v] (value v))
    (known : List (String × Json)) (name : String) (absent : α) :
    Blames (valuesOf known) (defaulted known name value absent) := by
  unfold defaulted
  split
  next v found => exact blames_lookup inner found
  · exact blames_of_ok _ _

/-- A whole text blames the document that it writes. -/
theorem blames_ofText {value : Json → Decoded α} (inner : ∀ v, Blames [v] (value v)) (s : String) :
    Blames (Json.readText s).1.toList (ofText value s) := by
  unfold ofText
  obtain ⟨read, whole⟩ := Json.readText s
  cases read with
  | none => exact blames_refuse _
  | some v =>
      refine (inner v).bind fun a _ => ?_
      split
      · exact blames_of_ok _ _
      · exact blames_refuse _

end Decode

open Decode

theorem Tenor.ofJson_text_eq_aborted_iff {s : String} :
    ofJson (.text s) = .error .aborted ↔ EndsWide s := by
  rw [ofJson_text, ofHalting_eq_aborted_iff, parse_eq_aborted_iff]

theorem Tenor.blames_ofJson (v : Json) : Blames [v] (ofJson v) := by
  rcases v with _ | _ | _ | (_ | s) | _ | _
  case string.some =>
    intro aborted
    exact ⟨_, List.mem_singleton_self _, s, .text, ofJson_text_eq_aborted_iff.mp aborted⟩
  all_goals exact blames_refuse _

theorem Date.blames_ofJson (v : Json) : Blames [v] (ofJson v) :=
  (blames_text v).bind fun _ _ => blames_ofOption _ _

theorem Csv.blames_number (v : Json) : Blames [v] (Csv.number v) :=
  (blames_text v).bind fun _ _ => blames_ofOption _ _

theorem CurveNode.blames_ofJson (v : Json) : Blames [v] (ofJson v) := by
  refine blames_record ?_ (fun known => ?_) v
  · simp only [List.forall_mem_cons]
    exact ⟨fun v => (blames_text v).map _, fun v => (Tenor.blames_ofJson v).map _,
      fun v => (blames_optional blames_text v).map _, nofun⟩
  · exact (blames_required blames_text known _).bind fun _ _ =>
      (blames_required Tenor.blames_ofJson known _).bind fun _ _ =>
        (blames_defaulted (blames_optional blames_text) known _ _).bind fun _ _ =>
          blames_of_ok _ _

theorem CurveSpecification.blames_ofJson (v : Json) : Blames [v] (ofJson v) := by
  have nodes := blames_list CurveNode.blames_ofJson
  refine blames_record ?_ (fun known => ?_) v
  · simp only [List.forall_mem_cons]
    exact ⟨fun v => (blames_text v).map _, fun v => (nodes v).map _, nofun⟩
  · exact (blames_required blames_text known _).bind fun _ _ =>
      (blames_required nodes known _).bind fun _ _ => blames_of_ok _ _

theorem ParRateRow.blames_ofRecord (v : Json) : Blames [v] (ofRecord v) := by
  refine blames_record ?_ (fun known => ?_) v
  · simp only [List.forall_mem_cons]
    exact ⟨fun v => (Date.blames_ofJson v).map _, fun v => (Tenor.blames_ofJson v).map _,
      fun v => (Csv.blames_number v).map _, nofun⟩
  · exact (blames_required Date.blames_ofJson known _).bind fun _ _ =>
      (blames_required Tenor.blames_ofJson known _).bind fun _ _ =>
        (blames_required Csv.blames_number known _).bind fun _ _ => blames_of_ok _ _

theorem Csv.mem_of_holds {names : Option (List String)} {columns : Nat} {cells : List String}
    {s : String} (held : (value names columns cells).Holds s) : s ∈ cells := by
  unfold value at held
  split at held
  · cases held with
    | value member inner =>
        obtain ⟨⟨name, cell⟩, among, same⟩ := List.mem_map.mp member
        cases same
        cases inner
        exact (List.of_mem_zip among).2
  · cases held with
    | item member inner =>
        obtain ⟨cell, among, rfl⟩ := List.mem_map.mp member
        cases inner
        exact List.mem_of_mem_take among

theorem Csv.exists_cell_of_aborted {decode : Json → Decoded ρ} (inner : ∀ v, Blames [v] (decode v))
    {width columns : Nat} {names : Option (List String)} {records : List RawRecord}
    (aborted : (decodeAll width columns names decode records).fault = some .aborted) :
    ∃ r ∈ records, ∃ cells, texts? r = some cells ∧ ∃ s ∈ cells, Tenor.EndsWide s := by
  induction records with
  | nil => cases aborted
  | cons r rest ih =>
      rw [decodeAll] at aborted
      split at aborted
      · cases aborted
      next cells written =>
        split at aborted
        next fault stopped =>
          cases aborted
          obtain ⟨v, member, s, held, wide⟩ := inner _ stopped
          cases List.mem_singleton.mp member
          have texts : texts? r = some cells := by
            split at written
            · exact written
            · cases written
          exact ⟨r, List.mem_cons_self, cells, texts, s, mem_of_holds held, wide⟩
        · obtain ⟨r, member, wide⟩ := ih aborted
          exact ⟨r, List.mem_cons_of_mem _ member, wide⟩

theorem FileEntry.holds_of_aborted {f : FileEntry} {store : SpecificationStore}
    (aborted : (store.reload f.specifications).1 = .error .aborted) :
    ∃ text v, f.text = .ok text ∧ (Json.readText text).1 = some v ∧
      ∃ s, v.Holds s ∧ Tenor.EndsWide s := by
  have stopped : f.decoded (list CurveSpecification.ofJson) = .error .aborted := by
    unfold specifications at aborted
    split at aborted
    · cases aborted
    · cases read : f.decoded (list CurveSpecification.ofJson) with
      | ok specifications => simp [read, SpecificationStore.reload] at aborted
      | error h =>
          rw [read] at aborted
          cases aborted
          rfl
  unfold decoded at stopped
  split at stopped
  · cases stopped
  next text written =>
    split at stopped
    · cases stopped
    next h fault =>
      cases h with
      | failed e => cases stopped
      | aborted =>
          obtain ⟨v, document, wide⟩ :=
            blames_ofText (blames_list CurveSpecification.blames_ofJson) text fault
          exact ⟨text, v, written, Option.mem_toList.mp document, wide⟩

theorem FileEntry.exists_cell_of_aborted {f : FileEntry} {store : ImpliedCurveStore Float}
    (aborted : (store.reload f.parRateRows).1 = .error .aborted) :
    ∃ content, f = .bytes content ∧ ∃ r ∈ (Csv.split content).tail, ∃ cells,
      Csv.texts? r = some cells ∧ ∃ s ∈ cells, Tenor.EndsWide s := by
  cases f with
  | absent fault => cases aborted
  | directory => cases aborted
  | bytes content =>
      have stopped : (Csv.decode 3 ParRateRow.ofRecord content).fault = some .aborted := by
        change (ImpliedCurveStore.reload store
          (some (Csv.decode 3 ParRateRow.ofRecord content))).1 = _ at aborted
        rcases fault : (Csv.decode 3 ParRateRow.ofRecord content).fault with _ | _ | _
        · simp [ImpliedCurveStore.reload, fault] at aborted
        · simp [ImpliedCurveStore.reload, fault, Halt.map] at aborted
        · rfl
      refine ⟨content, rfl, ?_⟩
      unfold Csv.decode at stopped
      split at stopped
      · cases stopped
      next header rest split =>
        rw [split]
        exact Csv.exists_cell_of_aborted ParRateRow.blames_ofRecord stopped

/-- A text is a tenor or refused as one exactly if it does not end in a character of several bytes.
Such a text aborts what reads it, and a load aborts at nothing else in its file. -/
theorem Tenor.reported_iff_not_endsWide (s : String) (specifications : SpecificationStore)
    (curves : ImpliedCurveStore Float) (f : FileEntry) :
    ((∃ t, parse s = .ok t) ∨ (∃ fault, parse s = .error (.failed (.unreadableTenor s fault))) ↔
        ¬ EndsWide s) ∧
      (EndsWide s → parse s = .error .aborted ∧ ∀ others,
        CurveNode.ofJson (.object ((some "maturity", .text s) :: others)) = .error .aborted ∧
          ParRateRow.ofRecord (.object ((some "tenor", .text s) :: others)) = .error .aborted) ∧
      ((specifications.reload f.specifications).1 = .error .aborted →
        ∃ text v, f.text = .ok text ∧ (Json.readText text).1 = some v ∧
          ∃ s, v.Holds s ∧ EndsWide s) ∧
      ((curves.reload f.parRateRows).1 = .error .aborted →
        ∃ content, f = .bytes content ∧ ∃ r ∈ (Csv.split content).tail, ∃ cells,
          Csv.texts? r = some cells ∧ ∃ s ∈ cells, EndsWide s) := by
  refine ⟨⟨fun reported wide => ?_, parse_of_not_endsWide⟩, fun wide => ?_,
    FileEntry.holds_of_aborted, FileEntry.exists_cell_of_aborted⟩
  · have stopped := parse_of_endsWide wide
    rcases reported with ⟨t, read⟩ | ⟨fault, refused⟩
    · rw [stopped] at read
      cases read
    · rw [stopped] at refused
      cases refused
  · have stopped := ofJson_text_eq_aborted_iff.mpr wide
    refine ⟨parse_of_endsWide wide, fun others => ⟨?_, ?_⟩⟩
    · simp [CurveNode.ofJson, record, membersOf, field, trailingField, stopped]
      rfl
    · simp [ParRateRow.ofRecord, record, membersOf, field, stopped]
      rfl

/-- A file with a node whose maturity ends in a letter of two bytes. -/
def wideMaturity : FileEntry :=
  .ofText ("[\x7b\"curve\":\"USD-OIS\",\"nodes\":" ++
    "[\x7b\"key\":\"USD3M\",\"maturity\":\"3é\"\x7d]\x7d]")

theorem load_wideMaturity :
    Tenor.EndsWide "3é" ∧ Tenor.parse "3é" = .error .aborted ∧
      (SpecificationStore.empty.reload wideMaturity.specifications).1 = .error .aborted ∧
      ∃ text v, wideMaturity.text = .ok text ∧ (Json.readText text).1 = some v ∧
        ∃ s, v.Holds s ∧ Tenor.EndsWide s := by
  have wide : Tenor.EndsWide "3é" := ⟨['3'], 'É', by decide, by decide⟩
  have stopped :
      (SpecificationStore.empty.reload wideMaturity.specifications).1 = .error .aborted := by
    decide +kernel
  obtain ⟨-, aborts, loads, -⟩ :=
    Tenor.reported_iff_not_endsWide "3é" .empty .empty wideMaturity
  exact ⟨wide, (aborts wide).1, stopped, loads stopped⟩

/-- So not every text is either a tenor or refused as one. -/
theorem not_forall_tenor_texts_reported :
    ¬ ∀ s, (∃ t, Tenor.parse s = .ok t) ∨
      ∃ fault, Tenor.parse s = .error (.failed (.unreadableTenor s fault)) := by
  intro reported
  have stopped : Tenor.parse "3é" = .error .aborted := by decide
  simpa [stopped] using reported "3é"

end CurvePnl
