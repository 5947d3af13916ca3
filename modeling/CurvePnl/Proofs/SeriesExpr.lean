import CurvePnl.Proofs.StoredSeries
import CurvePnl.Proofs.Work

/-! # Compositions of operations on series

Any series comes about by finitely many operations, each applied to series that came about before.
An expression names the operations. It is evaluated once with the operations on series, and once
with those on stored lists, of which only a few check anything. Both come to the same, so what is
stored always has equally many dates and values and increasing dates, and its values are found.
-/

namespace CurvePnl

/-- The series with one more sample, if that is accepted. -/
def DateSeries.offer {α : Type} (s : DateSeries α) (a : Sample α) : DateSeries α :=
  (s.push a.1 a.2).toOption.getD s

/-- The lists with one more sample, if that is accepted. -/
def PlainSeries.offer {α : Type} (p : PlainSeries α) (a : Sample α) : PlainSeries α :=
  (p.push a.1 a.2).toOption.getD p

/-- A finite composition of operations that yield a series. -/
inductive SeriesExpr where
  | new (dates : List Date) (values : List Float)
  | ofPairs (samples : List (Sample Float))
  | empty
  /-- The series read from a JSON text. -/
  | decode (text : String)
  | tailFrom (e : SeriesExpr) (n : Nat)
  | between (e : SeriesExpr) (first last : Date)
  | scale (e : SeriesExpr) (factor : Float)
  | reciprocal (e : SeriesExpr)
  | multiplyAligned (e other : SeriesExpr) (context : String)
  | multiplyCommon (e other : SeriesExpr)
  /-- The total of a matrix with these keys, labels and columns. -/
  | total {n : Nat} (heads : Fin n → Tenor × String) (columns : Fin n → SeriesExpr)
  | trimTo (e : SeriesExpr) (start : Date)
  | returns (kind : ReturnKind) (e : SeriesExpr)
  /-- The samples that a bucket accepts, if it is offered these one after the other. -/
  | bucket (offered : List (Sample Float))

namespace SeriesExpr

/-- The series that an expression comes to, unless an operation fails. -/
def series? : SeriesExpr → Option (DateSeries Float)
  | new dates values => (DateSeries.new dates values).toOption
  | ofPairs samples => (DateSeries.ofSamples samples).toOption
  | empty => some .empty
  | decode text => (Decode.ofText DateSeries.ofJson text).toOption
  | tailFrom e n => do return (← e.series?).tailFrom n
  | between e first last => do return (← e.series?).between first last
  | scale e factor => do return (← e.series?).scale factor
  | reciprocal e => do (← e.series?).reciprocal.toOption
  | multiplyAligned e other context => do
    ((← e.series?).multiplyAligned (← other.series?) context).toOption
  | multiplyCommon e other => do return (← e.series?).multiplyCommon (← other.series?)
  | total heads columns => do
    let columns ← (List.finRange _).mapM fun i => do
      return (⟨(heads i).1, (heads i).2, ← (columns i).series?⟩ : Column Float)
    return PnlMatrix.total ⟨columns⟩
  | trimTo e start => do return (← e.series?).trimTo start
  | returns kind e => do ((← e.series?).returns kind).toOption
  | bucket offered => some (offered.foldl DateSeries.offer .empty)

/-- The lists that are stored if the expression is evaluated, unless an operation fails. -/
def stored? : SeriesExpr → Option (PlainSeries Float)
  | new dates values => (PlainSeries.new dates values).toOption
  | ofPairs samples => (PlainSeries.ofPairs samples).toOption
  | empty => some .empty
  | decode text => (Decode.ofText PlainSeries.ofJson text).toOption
  | tailFrom e n => do return (← e.stored?).tailFrom n
  | between e first last => do return (← e.stored?).between first last
  | scale e factor => do return (← e.stored?).scale factor
  | reciprocal e => do (← e.stored?).reciprocal.toOption
  | multiplyAligned e other context => do
    ((← e.stored?).multiplyAligned (← other.stored?) context).toOption
  | multiplyCommon e other => do return (← e.stored?).multiplyCommon (← other.stored?)
  | total _ columns => do
    return PlainSeries.total (← (List.finRange _).mapM fun i => (columns i).stored?)
  | trimTo e start => do return (← e.stored?).trimTo start
  | returns kind e => do ((← e.stored?).returns kind).toOption
  | bucket offered =>
    let grown := offered.foldl PlainSeries.offer .empty
    (PlainSeries.new grown.dates grown.values).toOption

theorem toOption_map {ε β γ : Type} (f : β → γ) (x : Except ε β) :
    (x.map f).toOption = x.toOption.map f := by
  cases x <;> rfl

theorem mapM_stored {β γ δ : Type} {f : β → Option γ} {g : β → Option δ} {store : γ → δ}
    (piece : ∀ b, g b = (f b).map store) (l : List β) :
    l.mapM g = (l.mapM f).map (·.map store) := by
  induction l with
  | nil => rfl
  | cons b rest ih =>
      rw [List.mapM_cons, List.mapM_cons, piece, ih]
      cases f b with
      | none => rfl
      | some c => cases rest.mapM f <;> rfl

theorem foldl_offer (offered : List (Sample Float)) (s : DateSeries Float) :
    offered.foldl PlainSeries.offer s.plain = (offered.foldl DateSeries.offer s).plain := by
  induction offered generalizing s with
  | nil => rfl
  | cons a rest ih =>
      rw [List.foldl_cons, List.foldl_cons, ← ih, PlainSeries.offer, DateSeries.offer,
        PlainSeries.push_eq]
      cases s.push a.1 a.2 <;> rfl

theorem bind_stored {x : Option (DateSeries Float)}
    {f : DateSeries Float → Option (DateSeries Float)}
    {g : PlainSeries Float → Option (PlainSeries Float)}
    (next : ∀ s, g s.plain = (f s).map DateSeries.plain) :
    x.map DateSeries.plain >>= g = (x >>= f).map DateSeries.plain := by
  cases x with
  | none => rfl
  | some s => exact next s

/-- Both ways of evaluating an expression come to the same. -/
theorem stored?_eq (e : SeriesExpr) : e.stored? = e.series?.map DateSeries.plain := by
  induction e with
  | new dates values => rw [stored?, series?, PlainSeries.new_eq, toOption_map]
  | ofPairs samples => rw [stored?, series?, PlainSeries.ofPairs_eq, toOption_map]
  | empty => rfl
  | decode text =>
      rw [stored?, series?, PlainSeries.ofText_eq]
      exact toOption_map _ _
  | tailFrom e n ih =>
      rw [stored?, series?, ih]
      exact bind_stored fun s => congrArg some (PlainSeries.tailFrom_eq s n)
  | between e first last ih =>
      rw [stored?, series?, ih]
      exact bind_stored fun s => congrArg some (PlainSeries.between_eq s first last)
  | scale e factor ih =>
      rw [stored?, series?, ih]
      exact bind_stored fun s => congrArg some (PlainSeries.scale_eq s factor)
  | reciprocal e ih =>
      rw [stored?, series?, ih]
      exact bind_stored fun s => by rw [PlainSeries.reciprocal_eq, toOption_map]
  | multiplyAligned e other context ih ih' =>
      rw [stored?, series?, ih, ih']
      exact bind_stored fun s => bind_stored fun t => by
        rw [PlainSeries.multiplyAligned_eq, toOption_map]
  | multiplyCommon e other ih ih' =>
      rw [stored?, series?, ih, ih']
      exact bind_stored fun s => bind_stored fun t =>
        congrArg some (PlainSeries.multiplyCommon_eq s t)
  | total heads columns ih =>
      have column (i) : (columns i).stored? = (do
          return (⟨(heads i).1, (heads i).2, ← (columns i).series?⟩ : Column Float) :
            Option _).map fun c => c.series.plain := by
        rw [ih]
        cases (columns i).series? <;> rfl
      have summed (found : Option (List (Column Float))) : (do
          return PlainSeries.total (← found.map (·.map fun c => c.series.plain))) =
          (do return PnlMatrix.total ⟨← found⟩ : Option _).map DateSeries.plain := by
        cases found with
        | none => rfl
        | some l =>
            have total := PlainSeries.total_eq ⟨l⟩
            rw [PnlMatrix.series, List.map_map] at total
            exact congrArg some total
      rw [stored?, series?, mapM_stored column]
      exact summed _
  | trimTo e start ih =>
      rw [stored?, series?, ih]
      exact bind_stored fun s => congrArg some (PlainSeries.trimTo_eq s start)
  | returns kind e ih =>
      rw [stored?, series?, ih]
      exact bind_stored fun s => by rw [PlainSeries.returns_eq, toOption_map]
  | bucket offered =>
      have grown : offered.foldl PlainSeries.offer .empty = _ := foldl_offer offered .empty
      rw [stored?, series?, grown, PlainSeries.new_eq, toOption_map, PlainSeries.dates_plain,
        PlainSeries.values_plain, DateSeries.new_dates_values]
      rfl

/-- Whatever operations a series comes from, what is stored for it is equally many dates and values
with increasing dates. So the search by halving finds a value on a date exactly if they are one of
its samples. -/
theorem composed_series_is_well_formed (e : SeriesExpr) :
    e.stored? = e.series?.map DateSeries.plain ∧
      (∀ p, e.stored? = some p →
        p.dates.length = p.values.length ∧ p.dates.Pairwise (· < ·) ∧
        ∀ d v, p.valueOn? d = some v ↔ (d, v) ∈ p.dates.zip p.values) ∧
      ∀ s, e.series? = some s → ∀ d, s.valueOn? d = s.plain.valueOn? d := by
  refine ⟨e.stored?_eq, ?_, fun s _ d => (PlainSeries.valueOn?_eq s d).symm⟩
  intro p stored
  rw [stored?_eq, Option.map_eq_some_iff] at stored
  obtain ⟨s, -, rfl⟩ := stored
  refine ⟨PlainSeries.length_plain s, PlainSeries.pairwise_plain s, fun d v => ?_⟩
  have pairs : s.plain.dates.zip s.plain.values = s.samples := PlainSeries.pairs_plain s
  rw [PlainSeries.valueOn?_eq, pairs]
  exact DateSeries.valueOn?_eq_some_iff

/-- The last two of three samples are left by a trim, and the last one by a cut. A sample that comes
too late is not accepted. -/
def trimmedBucket : SeriesExpr :=
  .between (.trimTo (.bucket [(.friday, 1.0), (.monday, 2.0), (.friday, 3.0)]) .monday)
    .monday .monday

theorem stored_trimmedBucket :
    trimmedBucket.stored? = some ⟨[.monday], [2.0]⟩ ∧
      (⟨[.monday], [2.0]⟩ : PlainSeries Float).valueOn? .monday = some 2.0 := by
  obtain ⟨same, wellFormed, -⟩ := composed_series_is_well_formed trimmedBucket
  have stored : trimmedBucket.stored? = some ⟨[.monday], [2.0]⟩ := same
  exact ⟨stored, ((wellFormed _ stored).2.2 .monday 2.0).mpr (by simp)⟩

end SeriesExpr

end CurvePnl
