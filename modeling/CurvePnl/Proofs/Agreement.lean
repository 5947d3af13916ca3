import CurvePnl.Proofs.Blind
import CurvePnl.Proofs.Endings

/-! # Two works that agree

Two works agree if they go the same way whatever journals they begin with: both yield values, which
are related, or both fail with one and the same error. Agreement is put together from the pieces of
both works. A piece that only one of them has must not fail.
-/

namespace CurvePnl.Work

variable {α β β' γ γ' : Type}

/-- Both works yield values that are related by `R`, or both fail with the same error. -/
def Agree (R : β → β' → Prop) (w : Work α β) (w' : Work α β') : Prop :=
  ∀ j j', (∃ b b', w.outcome j = .ok b ∧ w'.outcome j' = .ok b' ∧ R b b') ∨
    ∃ e, w.outcome j = .error (.failed e) ∧ w'.outcome j' = .error (.failed e)

/-- Both are values that are related by `R`, or both are the same error. -/
inductive AlikeResults {ε : Type} (R : β → β' → Prop) : Except ε β → Except ε β' → Prop where
  | ok {b b'} (related : R b b') : AlikeResults R (.ok b) (.ok b')
  | error (e) : AlikeResults R (.error e) (.error e)

namespace Agree

variable {R : β → β' → Prop} {S : γ → γ' → Prop} {w : Work α β} {w' : Work α β'}

theorem outcomes {v : Work α β} (agree : Agree Eq w v) (j j' : Journal α) :
    (∃ b, w.outcome j = .ok b ∧ v.outcome j' = .ok b) ∨
      ∃ e, w.outcome j = .error (.failed e) ∧ v.outcome j' = .error (.failed e) := by
  rcases agree j j' with ⟨b, _, ok, ok', rfl⟩ | failed
  · exact .inl ⟨b, ok, ok'⟩
  · exact .inr failed

theorem outcome_eq {v : Work α β} (agree : Agree Eq w v) (j j' : Journal α) :
    w.outcome j = v.outcome j' := by
  rcases agree.outcomes j j' with ⟨b, ok, ok'⟩ | ⟨e, failed, failed'⟩
  · rw [ok, ok']
  · rw [failed, failed']

theorem pure {b : β} {b' : β'} (related : R b b') :
    Agree R (Pure.pure b : Work α β) (Pure.pure b' : Work α β') :=
  fun _ _ => .inl ⟨b, b', rfl, rfl, related⟩

theorem mono (agree : Agree R w w') {T : β → β' → Prop} (weaker : ∀ b b', R b b' → T b b') :
    Agree T w w' := by
  intro j j'
  rcases agree j j' with ⟨b, b', ok, ok', related⟩ | failed
  · exact .inl ⟨b, b', ok, ok', weaker b b' related⟩
  · exact .inr failed

theorem strengthen (agree : Agree R w w') {Q : β → Prop}
    (values : ∀ j b, w.outcome j = .ok b → Q b) : Agree (fun b b' => R b b' ∧ Q b) w w' := by
  intro j j'
  rcases agree j j' with ⟨b, b', ok, ok', related⟩ | failed
  · exact .inl ⟨b, b', ok, ok', related, values j b ok⟩
  · exact .inr failed

theorem attempt (agree : Agree R w w') :
    Agree (AlikeResults R) w.attempt w'.attempt := by
  intro j j'
  rw [outcome_attempt, outcome_attempt]
  rcases agree j j' with ⟨b, b', ok, ok', related⟩ | ⟨e, failed, failed'⟩
  · exact .inl ⟨.ok b, .ok b', by rw [ok], by rw [ok'], .ok related⟩
  · exact .inl ⟨.error e, .error e, by rw [failed], by rw [failed'], .error e⟩

/-- Blind work that does not abort agrees with itself. -/
theorem of_blind {w : Work α β} (blind : w.Blind) (unaborted : ∀ j, w.outcome j ≠ .error .aborted) :
    Agree Eq w w := by
  intro j j'
  have same : w.outcome j = w.outcome j' := by rw [blind.outcome_eq, blind.outcome_eq]
  cases ended : w.outcome j with
  | ok b => exact .inl ⟨b, b, rfl, same.symm.trans ended, rfl⟩
  | error halt =>
      cases halt with
      | failed e => exact .inr ⟨e, rfl, same.symm.trans ended⟩
      | aborted => exact absurd ended (unaborted j)

theorem fail (e : AttributionError) : Agree R (Work.fail e : Work α β) (Work.fail e) :=
  fun _ _ => .inr ⟨e, rfl, rfl⟩

theorem bind {f : β → Work α γ} {f' : β' → Work α γ'} (first : Agree R w w')
    (next : ∀ b b', R b b' → Agree S (f b) (f' b')) : Agree S (w >>= f) (w' >>= f') := by
  intro j j'
  rcases first j j' with ⟨b, b', ok, ok', related⟩ | ⟨e, failed, failed'⟩
  · rw [outcome_bind_of_ok ok, outcome_bind_of_ok ok']
    exact next b b' related _ _
  · exact .inr ⟨e, outcome_bind_of_error failed, outcome_bind_of_error failed'⟩

/-- The first work may do something more, if that does not fail. -/
theorem bind_left {δ : Type} {Q : δ → Prop} {more : Work α δ} {f : δ → Work α β}
    (ends : more.Ends (fun _ => False) Q) (next : ∀ d, Q d → Agree R (f d) w') :
    Agree R (more >>= f) w' := by
  intro j j'
  rcases ends j with ⟨d, ok, property⟩ | ⟨e, -, impossible⟩
  · rw [outcome_bind_of_ok ok]
    exact next d property _ j'
  · cases impossible

theorem bind_right {δ : Type} {Q : δ → Prop} {more : Work α δ} {f : δ → Work α β'}
    (ends : more.Ends (fun _ => False) Q) (next : ∀ d, Q d → Agree R w (f d)) :
    Agree R w (more >>= f) := by
  intro j j'
  rcases ends j' with ⟨d, ok, property⟩ | ⟨e, -, impossible⟩
  · rw [outcome_bind_of_ok ok]
    exact next d property j _
  · cases impossible

theorem ask (c : Call) (answer : Except SourceError β) :
    Agree (fun x y => x = answer ∧ y = answer) (Work.ask c answer : Work α _)
      (Work.ask c answer) :=
  fun _ _ => .inl ⟨answer, answer, rfl, rfl, rfl, rfl⟩

theorem require (collaborator : Collaborator) (context : String) (x : Except SourceError β) :
    Agree (fun b b' => x = .ok b ∧ b = b') (Work.require collaborator context x : Work α β)
      (Work.require collaborator context x) := by
  cases x with
  | ok b => exact .pure ⟨rfl, rfl⟩
  | error e => exact .fail _

theorem require_map (collaborator : Collaborator) (context : String) (f : β → β')
    (x : Except SourceError β) :
    Agree (fun b b' => x = .ok b ∧ f b = b') (Work.require collaborator context x : Work α _)
      (Work.require collaborator context (x.map f)) := by
  cases x with
  | ok b => exact .pure ⟨rfl, rfl⟩
  | error e => exact .fail _

theorem ofValues (x : Except ValueError β) :
    Agree (fun b b' => x = .ok b ∧ b = b') (Work.ofValues x : Work α β) (Work.ofValues x) := by
  cases x with
  | ok b => exact .pure ⟨rfl, rfl⟩
  | error e => exact .fail _

theorem ofValues_map (f : β → β') (x : Except ValueError β) :
    Agree (fun b b' => x = .ok b ∧ f b = b') (Work.ofValues x : Work α _)
      (Work.ofValues (x.map f)) := by
  cases x with
  | ok b => exact .pure ⟨rfl, rfl⟩
  | error e => exact .fail _

theorem checkCount (curve : CurveName) (nodes sensitivities : Nat) :
    Agree (fun _ _ => nodes = sensitivities) (Work.checkCount curve nodes sensitivities : Work α _)
      (Work.checkCount curve nodes sensitivities) := by
  unfold Work.checkCount
  split
  next same => exact .pure same
  · exact .fail _

theorem matchCurve (b : SensitivityBundle α) (curve : CurveName) :
    Agree (fun m m' => m = m' ∧ b.matched? curve = some m) (b.matchCurve curve)
      (b.matchCurve curve) := by
  unfold SensitivityBundle.matchCurve
  cases b.matched? curve with
  | none => exact .fail _
  | some m =>
      simp only
      split
      · exact .bind_left (.note _) fun _ _ => .bind_right (.note _) fun _ _ => .pure ⟨rfl, rfl⟩
      · exact .pure ⟨rfl, rfl⟩

theorem mapM {T : β → β' → Prop} {l : List β} {l' : List β'} {f : β → Work α γ}
    {f' : β' → Work α γ'} (items : List.Forall₂ T l l')
    (piece : ∀ b b', T b b' → Agree S (f b) (f' b')) :
    Agree (List.Forall₂ S) (l.mapM f) (l'.mapM f') := by
  induction items with
  | nil => exact .pure .nil
  | cons related _ ih =>
      rw [List.mapM_cons, List.mapM_cons]
      exact .bind (piece _ _ related) fun c c' first =>
        .bind ih fun cs cs' others => .pure (.cons first others)

end Agree

end CurvePnl.Work
