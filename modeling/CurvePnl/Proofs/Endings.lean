import CurvePnl.Proofs.Work

/-! # How work ends

Work ends with a value or with an error, or it aborts. Rules for the pieces that work is made of
tell which values and which errors are possible, whatever the journal it begins with, so that the
errors of a composite are those of its pieces.
-/

namespace CurvePnl.Work

variable {α β γ : Type}

/-- The work does not abort. It yields a value with the property `Q`, or an error with the
property `P`. -/
def Ends (w : Work α β) (P : AttributionError → Prop) (Q : β → Prop) : Prop :=
  ∀ j, (∃ b, w.outcome j = .ok b ∧ Q b) ∨ ∃ e, w.outcome j = .error (.failed e) ∧ P e

namespace Ends

variable {P P' : AttributionError → Prop} {Q Q' : β → Prop} {R : γ → Prop}

theorem not_aborted {w : Work α β} (ends : w.Ends P Q) (j : Journal α) :
    w.outcome j ≠ .error .aborted := by
  intro aborted
  rcases ends j with ⟨b, ok, -⟩ | ⟨e, failed, -⟩
  · rw [aborted] at ok
    cases ok
  · rw [aborted] at failed
    cases failed

theorem of_failed {w : Work α β} (ends : w.Ends P Q) {j : Journal α} {e : AttributionError}
    (failed : w.outcome j = .error (.failed e)) : P e := by
  rcases ends j with ⟨b, ok, -⟩ | ⟨e', failed', documented⟩
  · rw [failed] at ok
    cases ok
  · rw [failed] at failed'
    cases failed'
    exact documented

theorem mono {w : Work α β} (ends : w.Ends P Q) (errors : ∀ e, P e → P' e)
    (values : ∀ b, Q b → Q' b) : w.Ends P' Q' := by
  intro j
  rcases ends j with ⟨b, ok, property⟩ | ⟨e, failed, property⟩
  · exact .inl ⟨b, ok, values b property⟩
  · exact .inr ⟨e, failed, errors e property⟩

theorem forget {w : Work α β} (ends : w.Ends P Q) : w.Ends P fun _ => True :=
  ends.mono (fun _ property => property) fun _ _ => trivial

theorem strengthen {w : Work α β} (ends : w.Ends P fun _ => True)
    (values : ∀ j b, w.outcome j = .ok b → Q b) : w.Ends P Q := by
  intro j
  rcases ends j with ⟨b, ok, -⟩ | failed
  · exact .inl ⟨b, ok, values j b ok⟩
  · exact .inr failed

theorem pure {b : β} (property : Q b) : (Pure.pure b : Work α β).Ends P Q :=
  fun _ => .inl ⟨b, rfl, property⟩

theorem fail {e : AttributionError} (property : P e) : (Work.fail e : Work α β).Ends P Q :=
  fun _ => .inr ⟨e, rfl, property⟩

theorem note (e : Event α) : (Work.note e).Ends P fun _ => True :=
  fun _ => .inl ⟨(), rfl, trivial⟩

theorem notes (f : β → Event α) (l : List β) :
    (forM l fun b => Work.note (f b)).Ends P fun _ => True :=
  fun j => .inl ⟨(), outcome_forM_note f l j, trivial⟩

theorem ask (c : Call) (answer : Except SourceError β) :
    (Work.ask c answer : Work α _).Ends P (· = answer) :=
  fun _ => .inl ⟨answer, rfl, rfl⟩

theorem bind {w : Work α β} {f : β → Work α γ} (first : w.Ends P Q)
    (next : ∀ b, Q b → (f b).Ends P R) : (w >>= f).Ends P R := by
  intro j
  rcases first j with ⟨b, ok, property⟩ | ⟨e, failed, property⟩
  · rw [outcome_bind_of_ok ok]
    exact next b property (w.journal j)
  · exact .inr ⟨e, outcome_bind_of_error failed, property⟩

theorem map {w : Work α β} {f : β → γ} (ends : w.Ends P Q) (values : ∀ b, Q b → R (f b)) :
    (f <$> w).Ends P R := by
  rw [← bind_pure_comp]
  exact ends.bind fun b property => .pure (values b property)

theorem ofValues {x : Except ValueError β}
    (property : ∀ e, x = .error e → P (.ofValueError e)) :
    (Work.ofValues x : Work α β).Ends P (x = .ok ·) := by
  cases x with
  | ok b => exact .pure rfl
  | error e => exact .fail (property e rfl)

theorem inRange {x : Option β} {b : β} (found : x = some b) :
    (Work.inRange x : Work α β).Ends P (· = b) := by
  subst found
  exact .pure rfl

theorem require {collaborator : Collaborator} {context : String} {x : Except SourceError β}
    (property : ∀ e, x = .error e → P (.source collaborator context e)) :
    (Work.require collaborator context x : Work α β).Ends P (x = .ok ·) := by
  cases x with
  | ok b => exact .pure rfl
  | error e => exact .fail (property e rfl)

theorem checkCount {curve : CurveName} {nodes sensitivities : Nat}
    (property : nodes ≠ sensitivities → P (.countMismatch curve nodes sensitivities)) :
    (Work.checkCount curve nodes sensitivities : Work α Unit).Ends P
      fun _ => nodes = sensitivities := by
  unfold Work.checkCount
  split
  next same => exact .pure same
  next different => exact .fail (property different)

theorem attempt {w : Work α β} (ends : w.Ends P Q) :
    w.attempt.Ends P' fun result => match result with
      | .ok b => Q b
      | .error e => P e := by
  intro j
  rw [outcome_attempt]
  rcases ends j with ⟨b, ok, property⟩ | ⟨e, failed, property⟩
  · exact .inl ⟨.ok b, by rw [ok], property⟩
  · exact .inl ⟨.error e, by rw [failed], property⟩

theorem mapM {f : β → Work α γ} {l : List β} (piece : ∀ b ∈ l, (f b).Ends P fun _ => True) :
    (l.mapM f).Ends P fun _ => True := by
  induction l with
  | nil => exact .pure trivial
  | cons b rest ih =>
      obtain ⟨first, others⟩ := List.forall_mem_cons.mp piece
      rw [List.mapM_cons]
      exact first.bind fun c _ => (ih others).bind fun cs _ => .pure trivial

end Ends

/-- Every error that the work may fail with has the property `P`. It may also abort. -/
def Fails (w : Work α β) (P : AttributionError → Prop) : Prop :=
  ∀ j e, w.outcome j = .error (.failed e) → P e

namespace Fails

variable {P : AttributionError → Prop} {w : Work α β} {f : β → Work α γ}

theorem of_ok {b : Journal α → β} (ok : ∀ j, w.outcome j = .ok (b j)) : w.Fails P := by
  intro j e failed
  rw [ok] at failed
  cases failed

theorem pure (b : β) : (Pure.pure b : Work α β).Fails P := of_ok fun _ => outcome_pure b _

theorem note (e : Event α) : (Work.note e).Fails P := of_ok fun _ => outcome_note e _

theorem notes (f : β → Event α) (l : List β) : (forM l fun b => Work.note (f b)).Fails P :=
  of_ok fun _ => outcome_forM_note f l _

theorem ask (c : Call) (answer : Except SourceError β) : (Work.ask c answer : Work α _).Fails P :=
  of_ok fun _ => outcome_ask c answer _

theorem fail {e : AttributionError} (property : P e) : (Work.fail e : Work α β).Fails P := by
  intro j e' failed
  cases failed
  exact property

theorem bind (first : w.Fails P) (next : ∀ j b, w.outcome j = .ok b → (f b).Fails P) :
    (w >>= f).Fails P := by
  intro j e failed
  rcases outcome_bind_eq_error.mp failed with failed | ⟨b, ended, failed⟩
  · exact first j e failed
  · exact next j b ended (w.journal j) e failed

theorem map {f : β → γ} (fails : w.Fails P) : (f <$> w).Fails P := by
  rw [← bind_pure_comp]
  exact fails.bind fun _ b _ => pure (f b)

theorem ofValues {x : Except ValueError β}
    (property : ∀ e, x = .error e → P (.ofValueError e)) : (Work.ofValues x : Work α β).Fails P := by
  cases x with
  | ok b => exact pure b
  | error e => exact fail (property e rfl)

theorem inRange (x : Option β) : (Work.inRange x : Work α β).Fails P := by
  cases x with
  | some b => exact pure b
  | none =>
      intro j e failed
      cases failed

theorem require {collaborator : Collaborator} {context : String} {x : Except SourceError β}
    (property : ∀ e, x = .error e → P (.source collaborator context e)) :
    (Work.require collaborator context x : Work α β).Fails P := by
  cases x with
  | ok b => exact pure b
  | error e => exact fail (property e rfl)

theorem checkCount {curve : CurveName} {nodes sensitivities : Nat}
    (property : nodes ≠ sensitivities → P (.countMismatch curve nodes sensitivities)) :
    (Work.checkCount curve nodes sensitivities : Work α Unit).Fails P := by
  unfold Work.checkCount
  split
  · exact pure ()
  next different => exact fail (property different)

theorem of_attempt (fails : w.Fails P) {j : Journal α} {e : AttributionError}
    (caught : w.attempt.outcome j = .ok (.error e)) : P e := by
  rw [outcome_attempt] at caught
  split at caught
  · cases caught
  next e' failed =>
    cases caught
    exact fails j e failed
  · cases caught

theorem mapM {f : β → Work α γ} (piece : ∀ b, (f b).Fails P) (l : List β) :
    (l.mapM f).Fails P := by
  induction l with
  | nil => exact pure []
  | cons b rest ih =>
      rw [List.mapM_cons]
      exact (piece b).bind fun _ c _ => ih.bind fun _ cs _ => pure _

end Fails

end CurvePnl.Work
