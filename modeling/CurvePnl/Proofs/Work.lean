import CurvePnl.Attribution.Conversion
import CurvePnl.Attribution.Matching
import Mathlib.Data.List.Forall2

/-! # Running work

Work begins with a journal, and ends with an outcome and a later journal. The laws below open the
pieces that work is made of. What a composite yields is read off its parts, so later proofs
never look into the monad.
-/

namespace CurvePnl.Work

variable {α β γ : Type}

/-- What work yields when it begins with a journal. -/
def outcome (w : Work α β) (j : Journal α) : Except (Halt AttributionError) β := (w.run.run j).1

/-- The journal that work leaves. -/
def journal (w : Work α β) (j : Journal α) : Journal α := (w.run.run j).2

theorem run_bind (w : Work α β) (f : β → Work α γ) (j : Journal α) :
    (w >>= f).run.run j = match w.outcome j with
      | .ok b => (f b).run.run (w.journal j)
      | .error e => (.error e, w.journal j) := by
  simp only [ExceptT.run_bind, StateT.run_bind, outcome, journal]
  cases w.run.run j with
  | mk result after => cases result <;> rfl

theorem run_get_bind (f : Journal α → Work α β) (j : Journal α) :
    (get >>= f).run.run j = (f j).run.run j := rfl

theorem run_tryCatch (w : Work α β) (handle : Halt AttributionError → Work α β)
    (j : Journal α) :
    (tryCatch w handle).run.run j = match w.outcome j with
      | .ok b => (.ok b, w.journal j)
      | .error e => (handle e).run.run (w.journal j) := by
  simp only [ExceptT.run_tryCatch, StateT.run_bind, outcome, journal]
  cases w.run.run j with
  | mk result after => cases result <;> rfl

@[simp] theorem outcome_pure (b : β) (j : Journal α) : outcome (pure b : Work α β) j = .ok b := rfl

@[simp] theorem journal_pure (b : β) (j : Journal α) : journal (pure b : Work α β) j = j := rfl

@[simp] theorem outcome_bind_eq_ok {w : Work α β} {f : β → Work α γ} {j : Journal α} {c : γ} :
    (w >>= f).outcome j = .ok c ↔
      ∃ b, w.outcome j = .ok b ∧ (f b).outcome (w.journal j) = .ok c := by
  rw [outcome, run_bind]
  cases w.outcome j <;> simp [outcome]

theorem outcome_bind_ok {w : Work α β} {f : β → Work α γ} {j : Journal α} {b : β} {c : γ}
    (first : w.outcome j = .ok b) (next : (f b).outcome (w.journal j) = .ok c) :
    (w >>= f).outcome j = .ok c :=
  outcome_bind_eq_ok.mpr ⟨b, first, next⟩

@[simp] theorem outcome_map_eq_ok {w : Work α β} {f : β → γ} {j : Journal α} {c : γ} :
    (f <$> w).outcome j = .ok c ↔ ∃ b, w.outcome j = .ok b ∧ f b = c := by
  rw [← bind_pure_comp, outcome_bind_eq_ok]
  simp

theorem outcome_bind_of_ok {w : Work α β} {f : β → Work α γ} {j : Journal α} {b : β}
    (h : w.outcome j = .ok b) : (w >>= f).outcome j = (f b).outcome (w.journal j) := by
  rw [outcome, run_bind, h]
  rfl

theorem outcome_bind_of_error {w : Work α β} {f : β → Work α γ} {j : Journal α}
    {e : Halt AttributionError} (h : w.outcome j = .error e) :
    (w >>= f).outcome j = .error e := by
  rw [outcome, run_bind, h]

theorem outcome_bind_eq_error {w : Work α β} {f : β → Work α γ} {j : Journal α}
    {e : Halt AttributionError} :
    (w >>= f).outcome j = .error e ↔
      w.outcome j = .error e ∨
        ∃ b, w.outcome j = .ok b ∧ (f b).outcome (w.journal j) = .error e := by
  rw [outcome, run_bind]
  cases w.outcome j <;> simp [outcome]

theorem journal_bind_of_ok {w : Work α β} {f : β → Work α γ} {j : Journal α} {b : β}
    (h : w.outcome j = .ok b) : (w >>= f).journal j = (f b).journal (w.journal j) := by
  rw [journal, run_bind, h]
  rfl

theorem journal_bind_of_error {w : Work α β} {f : β → Work α γ} {j : Journal α}
    {e : Halt AttributionError} (h : w.outcome j = .error e) :
    (w >>= f).journal j = w.journal j := by
  rw [journal, run_bind, h]

@[simp] theorem outcome_fail (e : AttributionError) (j : Journal α) :
    (fail e : Work α β).outcome j = .error (.failed e) := rfl

@[simp] theorem journal_fail (e : AttributionError) (j : Journal α) :
    (fail e : Work α β).journal j = j := rfl

@[simp] theorem outcome_note (e : Event α) (j : Journal α) : (note e).outcome j = .ok () := rfl

@[simp] theorem journal_note (e : Event α) (j : Journal α) :
    (note e).journal j = { j with events := j.events.push e } := rfl

@[simp] theorem outcome_ask (c : Call) (answer : Except SourceError β) (j : Journal α) :
    (ask c answer).outcome j = .ok answer := rfl

@[simp] theorem journal_ask (c : Call) (answer : Except SourceError β) (j : Journal α) :
    (ask c answer).journal j = { j with calls := j.calls.push c } := rfl

@[simp] theorem outcome_ofValues_eq_ok {x : Except ValueError β} {b : β} {j : Journal α} :
    (ofValues x).outcome j = .ok b ↔ x = .ok b := by
  cases x <;> simp [ofValues]

@[simp] theorem outcome_inRange_eq_ok {x : Option β} {b : β} {j : Journal α} :
    (inRange x).outcome j = .ok b ↔ x = some b := by
  cases x with
  | none => exact ⟨nofun, nofun⟩
  | some c => simp [inRange]

@[simp] theorem outcome_require_eq_ok {collaborator : Collaborator} {context : String}
    {x : Except SourceError β} {b : β} {j : Journal α} :
    (require collaborator context x).outcome j = .ok b ↔ x = .ok b := by
  cases x <;> simp [require]

@[simp] theorem outcome_checkCount_eq_ok {curve : CurveName} {nodes sensitivities : Nat}
    {j : Journal α} :
    (checkCount curve nodes sensitivities).outcome j = .ok () ↔ nodes = sensitivities := by
  unfold checkCount
  split <;> simp [*]

theorem outcome_attempt (w : Work α β) (j : Journal α) :
    w.attempt.outcome j = match w.outcome j with
      | .ok b => .ok (.ok b)
      | .error (.failed e) => .ok (.error e)
      | .error .aborted => .error .aborted := by
  rw [outcome, attempt, run_tryCatch]
  simp only [outcome, journal, run_bind]
  rcases w.run.run j with ⟨(_ | _) | _, after⟩ <;> rfl

@[simp] theorem journal_attempt (w : Work α β) (j : Journal α) :
    w.attempt.journal j = w.journal j := by
  rw [journal, attempt, run_tryCatch]
  simp only [outcome, journal, run_bind]
  rcases w.run.run j with ⟨(_ | _) | _, after⟩ <;> rfl

@[simp] theorem outcome_attempt_eq_ok {w : Work α β} {b : β} {j : Journal α} :
    w.attempt.outcome j = .ok (.ok b) ↔ w.outcome j = .ok b := by
  rw [outcome_attempt]
  rcases w.outcome j with (_ | _) | _ <;> simp

/-- If each piece yields what a relation allows, whatever the journal, then so does the list. -/
theorem outcome_mapM_eq_ok {f : β → Work α γ} {R : β → γ → Prop} {l : List β}
    (piece : ∀ b ∈ l, ∀ c j, (f b).outcome j = .ok c ↔ R b c) {cs : List γ}
    {j : Journal α} : (l.mapM f).outcome j = .ok cs ↔ List.Forall₂ R l cs := by
  induction l generalizing cs j with
  | nil => cases cs <;> simp
  | cons b rest ih =>
      obtain ⟨first, others⟩ := List.forall_mem_cons.mp piece
      simp only [List.mapM_cons, outcome_bind_eq_ok, first, ih others, outcome_pure,
        Except.ok.injEq]
      constructor
      · rintro ⟨c, head, cs, tail, rfl⟩
        exact .cons head tail
      · intro related
        cases related with
        | cons head tail => exact ⟨_, head, _, tail, rfl⟩

theorem forall₂_zip_iff {δ : Type} {R : β → γ → δ → Prop} {bs : List β} {cs : List γ} {ds : List δ}
    (sameLength : bs.length = cs.length) :
    List.Forall₂ (fun p d => R p.1 p.2 d) (bs.zip cs) ds ↔
      ds.length = bs.length ∧ ∀ (i : Nat) b c, bs[i]? = some b → cs[i]? = some c →
        ∃ d, ds[i]? = some d ∧ R b c d := by
  induction bs generalizing cs ds with
  | nil =>
      cases ds <;> simp
  | cons b bs ih =>
      cases cs with
      | nil => simp at sameLength
      | cons c cs =>
          have rest (ds : List δ) := @ih cs ds (by simpa using sameLength)
          cases ds with
          | nil => simp
          | cons d ds =>
              simp only [List.zip_cons_cons, List.forall₂_cons, rest ds, List.length_cons,
                Nat.add_right_cancel_iff]
              constructor
              · rintro ⟨head, length, tail⟩
                refine ⟨length, ?_⟩
                intro i
                cases i with
                | zero => simpa using head
                | succ i => simpa using tail i
              · rintro ⟨length, all⟩
                refine ⟨by simpa using all 0, length, ?_⟩
                intro i
                simpa using all (i + 1)

theorem forall₂_zip_left {δ : Type} {R : β → γ → Prop} {bs : List β} {cs : List γ}
    (related : List.Forall₂ R bs cs) (ds : List δ) :
    List.Forall₂ (fun p q => R p.1 q.1 ∧ p.2 = q.2) (bs.zip ds) (cs.zip ds) := by
  induction related generalizing ds with
  | nil => exact .nil
  | cons head _ ih =>
      cases ds with
      | nil => exact .nil
      | cons d ds => exact .cons ⟨head, rfl⟩ (ih ds)

theorem map_mapM {δ : Type} (f : β → Work α γ) (g : γ → δ) (l : List β) :
    List.map g <$> l.mapM f = l.mapM fun b => g <$> f b := by
  induction l with
  | nil => simp
  | cons b rest ih => simp [List.mapM_cons, ← ih, map_bind, bind_map_left]

theorem exists_forall₂_iff {R : β → γ → Prop} {l : List β} :
    (∃ cs, List.Forall₂ R l cs) ↔ ∀ b ∈ l, ∃ c, R b c := by
  induction l with
  | nil => simp
  | cons b rest ih =>
      simp only [List.forall₂_cons_left_iff, List.forall_mem_cons, ← ih]
      constructor
      · rintro ⟨_, c, cs, head, tail, rfl⟩
        exact ⟨⟨c, head⟩, cs, tail⟩
      · rintro ⟨⟨c, head⟩, cs, tail⟩
        exact ⟨c :: cs, c, cs, head, tail, rfl⟩

@[simp] theorem outcome_forM_note (f : β → Event α) (l : List β) (j : Journal α) :
    (forM l fun b => note (f b)).outcome j = .ok () := by
  induction l generalizing j with
  | nil => rfl
  | cons b rest ih => simp [List.forM_cons, ih]

end CurvePnl.Work

/-- Friday, 10 January 2025. -/
def CurvePnl.Date.friday : Date := ⟨739566, by decide, by decide⟩

/-- Monday, 13 January 2025, on which concrete runs take place. -/
def CurvePnl.Date.monday : Date := ⟨739569, by decide, by decide⟩

namespace CurvePnl.Sources

/-- Sources that answer nothing. Concrete sources add the answers they need. -/
def silent {α : Type} : Sources α where
  pair _ := .error ⟨.notFound, "pair"⟩
  sensitivities _ _ := .error ⟨.notFound, "sensitivities"⟩
  specification _ _ := .error ⟨.notFound, "specification"⟩
  nodeHistory _ _ := .error ⟨.notFound, "node history"⟩
  fxHistory _ _ := .error ⟨.notFound, "fx history"⟩
  fxRate _ _ _ := .error ⟨.notFound, "fx rate"⟩
  returns := .ok
  impliedCurve _ _ := ⟨.error ⟨.constructionFailed, "no quotes"⟩, false⟩

def monday : DateWindow := ⟨.monday, .monday, Int.le_refl _⟩

/-- Monday with its lead. -/
def weekToMonday : DateWindow := ⟨⟨739562, by decide, by decide⟩, .monday, by decide⟩

end CurvePnl.Sources
