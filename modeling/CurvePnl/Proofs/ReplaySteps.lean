import CurvePnl.Proofs.Blind
import CurvePnl.Proofs.Replay

/-! # What a replay depends on

Each day of a replay looks at the cancellation flag, asks for a curve, and records the answer.
Recording is blind. So a replay depends on nothing but the answers and the flag that it begins with,
whatever else has happened before it.
-/

namespace CurvePnl

namespace Work

variable {α β γ : Type}

/-- After journals with the same cancellation flag, both pieces of work yield the same and leave the
same flag. -/
def EndsLike (w w' : Work α β) : Prop :=
  ∀ j j' : Journal α, j.cancelled = j'.cancelled →
    w.outcome j = w'.outcome j' ∧ (w.journal j).cancelled = (w'.journal j').cancelled

theorem Blind.endsLike {w w' : Work α β} (blind : w.Blind) (blind' : w'.Blind)
    (alike : w.alone = w'.alone) : w.EndsLike w' := by
  intro j j' same
  constructor
  · rw [blind.outcome_eq, blind'.outcome_eq, alike]
  · rw [blind.keepsFlag, blind'.keepsFlag, same]

theorem EndsLike.bind {w w' : Work α β} {f f' : β → Work α γ} (first : w.EndsLike w')
    (next : ∀ j b, w.outcome j = .ok b → (f b).EndsLike (f' b)) :
    (w >>= f).EndsLike (w' >>= f') := by
  intro j j' same
  obtain ⟨outcome, flag⟩ := first j j' same
  cases ended : w.outcome j with
  | ok b =>
      have ended' := outcome.symm.trans ended
      rw [outcome_bind_of_ok ended, outcome_bind_of_ok ended', journal_bind_of_ok ended,
        journal_bind_of_ok ended']
      exact next j b ended _ _ flag
  | error e =>
      have ended' := outcome.symm.trans ended
      rw [outcome_bind_of_error ended, outcome_bind_of_error ended', journal_bind_of_error ended,
        journal_bind_of_error ended']
      exact ⟨rfl, flag⟩

/-- Of what happened before it, the work looks at the cancellation flag and at nothing else. -/
def FlagDetermined (w : Work α β) : Prop :=
  ∀ j j' : Journal α, j.cancelled = j'.cancelled →
    w.outcome j = w.outcome j' ∧ (w.journal j).cancelled = (w.journal j').cancelled

theorem Blind.flagDetermined {w : Work α β} (blind : w.Blind) : w.FlagDetermined :=
  blind.endsLike blind rfl

theorem FlagDetermined.bind {w : Work α β} {f : β → Work α γ} (first : w.FlagDetermined)
    (next : ∀ b, (f b).FlagDetermined) : (w >>= f).FlagDetermined :=
  EndsLike.bind first fun _ b _ => next b

end Work

namespace Sources

variable {α : Type} {s : Sources α} {setup : ReplaySetup} {history : ImpliedHistory α}
  {day : Date} {j : Journal α}

/-- What a replay does with the answer of a day. -/
def recordDay (setup : ReplaySetup) (history : ImpliedHistory α) (day : Date) :
    Except SourceError (ImpliedCurve α) → Work α (ImpliedHistory α)
  | .error e => do
    let logged := setup.workingDay day
    if logged then Work.note (.constructionFailed day setup.construction e)
    return history.push (.skipped day e.message logged)
  | .ok curve => do
    unless curve.isAscending do Work.fail (.nodeOrder day curve.tenors)
    let buckets ← Work.ofValues (ImpliedHistory.gather history.buckets day curve.points)
    Work.note (.curveBuilt day curve.points.length)
    return { history with buckets }.push (.built day curve.points.length)

theorem blind_recordDay (setup : ReplaySetup) (history : ImpliedHistory α) (day : Date)
    (answer : Except SourceError (ImpliedCurve α)) :
    (recordDay setup history day answer).Blind := by
  cases answer with
  | error e =>
      unfold recordDay
      dsimp only
      split
      · exact .bind (.note _) fun _ => .pure _
      · exact .pure _
  | ok curve =>
      have gathered : (do
          let buckets ← Work.ofValues (ImpliedHistory.gather history.buckets day curve.points)
          Work.note (.curveBuilt day curve.points.length)
          return { history with buckets }.push (.built day curve.points.length) :
            Work α _).Blind :=
        .bind (.ofValues _) fun _ => .bind (.note _) fun _ => .pure _
      unfold recordDay
      dsimp only
      split
      · exact gathered
      · exact .bind (.fail _) fun _ => gathered

theorem run_replayDay_of_live (live : j.cancelled = false) :
    (s.replayDay setup history day).run.run j =
      (s.askImpliedCurve setup.construction day >>= recordDay setup history day).run.run j := by
  rw [replayDay, Work.run_get_bind, live]
  rfl

theorem flagDetermined_replayDay (setup : ReplaySetup) (history : ImpliedHistory α) (day : Date) :
    (s.replayDay setup history day).FlagDetermined := by
  have asked : (s.askImpliedCurve setup.construction day).FlagDetermined := by
    intro j j' same
    simp only [Work.outcome, Work.journal, run_askImpliedCurve, Sources.asked, same, and_self]
  intro j j' same
  cases flag : j.cancelled with
  | true =>
      have flag' := same.symm.trans flag
      simp only [Work.outcome, Work.journal, run_replayDay_of_cancelled flag,
        run_replayDay_of_cancelled flag', same, and_self]
  | false =>
      have flag' := same.symm.trans flag
      simp only [Work.outcome, Work.journal, run_replayDay_of_live flag,
        run_replayDay_of_live flag']
      exact asked.bind (fun answer => (blind_recordDay setup history day answer).flagDetermined)
        j j' same

/-- Of all sources, a replay asks for curves only. -/
theorem replay_congr {s' : Sources α} (curves : s'.impliedCurve = s.impliedCurve)
    (setup : ReplaySetup) (window : DateWindow) : s'.replay setup window = s.replay setup window := by
  have days (setup : ReplaySetup) (history : ImpliedHistory α) (day : Date) :
      s'.replayDay setup history day = s.replayDay setup history day := by
    simp only [replayDay, askImpliedCurve, curves]
  have walk (setup : ReplaySetup) (last : Date) (n : Nat) :
      ∀ history day, s'.replayFrom setup last n history day =
        s.replayFrom setup last n history day := by
    induction n with
    | zero => exact fun _ _ => rfl
    | succ n ih =>
        intro history day
        simp only [replayFrom, days, ih]
  simp only [replay, walk]

theorem flagDetermined_replay (setup : ReplaySetup) (window : DateWindow) :
    (s.replay setup window).FlagDetermined := by
  have walk (last : Date) (n : Nat) :
      ∀ history day, (s.replayFrom setup last n history day).FlagDetermined := by
    induction n with
    | zero => exact fun history _ => (Work.Blind.pure history).flagDetermined
    | succ n ih =>
        intro history day
        apply (Work.Blind.inRange _).flagDetermined.bind
        intro next
        apply (flagDetermined_replayDay setup history day).bind
        intro history
        split
        · exact ih history next
        · exact (Work.Blind.pure _).flagDetermined
  exact (Work.Blind.inRange _).flagDetermined.bind fun fetched => walk _ _ _ _

end Sources

end CurvePnl
