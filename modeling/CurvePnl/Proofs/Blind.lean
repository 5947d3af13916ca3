import CurvePnl.Proofs.SharedSteps

/-! # Work that does not look back

Only a replay has to do with the cancellation flag. All other work goes the same way whatever its
journal tells, and what happens in it is entered behind what is there. So the calls and the outcome
of such work can be told from a blank journal, and those of a composite are put together from its
pieces.
-/

namespace CurvePnl

/-- The entries of both logs, those of `more` at the end. -/
def Log.append {ε : Type} (l more : Log ε) : Log ε := ⟨more.newest ++ l.newest⟩

@[simp] theorem Log.toList_append {ε : Type} (l more : Log ε) :
    (l.append more).toList = l.toList ++ more.toList := by
  simp [toList, append]

namespace Journal

variable {α : Type}

/-- What is in `j`, and after it what is in `more`. The flag is that of `j`. -/
def append (j more : Journal α) : Journal α :=
  ⟨j.calls.append more.calls, j.events.append more.events, j.cancelled⟩

@[simp] theorem append_blank (j : Journal α) (cancelled : Bool) :
    j.append (blank cancelled) = j := by
  simp [append, blank, Log.append, Log.empty]

theorem append_assoc (j k l : Journal α) : (j.append k).append l = j.append (k.append l) := by
  simp [append, Log.append]

theorem calls_append (j more : Journal α) :
    (j.append more).calls.toList = j.calls.toList ++ more.calls.toList :=
  Log.toList_append _ _

end Journal

namespace Work

variable {α β γ : Type}

/-- What the work yields if nothing happened before it. -/
def alone (w : Work α β) : Except (Halt AttributionError) β := w.outcome (.blank false)

/-- What happens in the work. -/
def trace (w : Work α β) : Journal α := w.journal (.blank false)

/-- The work yields the same and does the same after whatever journal, and neither sets nor clears
the cancellation flag. -/
def Blind (w : Work α β) : Prop := ∀ j, w.run.run j = (w.alone, j.append w.trace)

/-- Work that neither sets nor clears the cancellation flag. -/
def KeepsFlag (w : Work α β) : Prop := ∀ j, (w.journal j).cancelled = j.cancelled

namespace Blind

variable {w : Work α β} {f : β → Work α γ}

theorem outcome_eq (blind : w.Blind) (j : Journal α) : w.outcome j = w.alone := by
  rw [outcome, blind]

theorem journal_eq (blind : w.Blind) (j : Journal α) : w.journal j = j.append w.trace := by
  rw [journal, blind]

theorem keepsFlag (blind : w.Blind) : w.KeepsFlag := by
  intro j
  rw [blind.journal_eq]
  rfl

/-- It is enough to know what the work always does. -/
theorem of_run {r : Except (Halt AttributionError) β} {t : Journal α}
    (always : ∀ j, w.run.run j = (r, j.append t)) : w.Blind := by
  have first : w.alone = r := by rw [alone, outcome, always]
  have second : w.trace = (Journal.blank false).append t := by rw [trace, journal, always]
  intro j
  rw [first, second, ← Journal.append_assoc, Journal.append_blank, always]

theorem pure (b : β) : (Pure.pure b : Work α β).Blind :=
  of_run (t := .blank false) fun j => by rw [Journal.append_blank]; rfl

theorem fail (e : AttributionError) : (Work.fail e : Work α β).Blind :=
  of_run (t := .blank false) fun j => by rw [Journal.append_blank]; rfl

theorem abort : (throw .aborted : Work α β).Blind :=
  of_run (t := .blank false) fun j => by rw [Journal.append_blank]; rfl

theorem note (e : Event α) : (Work.note e).Blind :=
  of_run (t := ⟨.empty, Log.empty.push e, false⟩) fun _ => rfl

theorem ask (c : Call) (answer : Except SourceError β) : (Work.ask c answer : Work α _).Blind :=
  of_run (t := ⟨Log.empty.push c, .empty, false⟩) fun _ => rfl

theorem alone_bind (next : ∀ b, (f b).Blind) :
    (w >>= f).alone = match w.alone with
      | .ok b => (f b).alone
      | .error e => .error e := by
  cases ended : w.alone with
  | ok b => exact (outcome_bind_of_ok ended).trans ((next b).outcome_eq _)
  | error e => exact outcome_bind_of_error ended

theorem trace_bind (next : ∀ b, (f b).Blind) :
    (w >>= f).trace = match w.alone with
      | .ok b => w.trace.append (f b).trace
      | .error _ => w.trace := by
  cases ended : w.alone with
  | ok b => exact (journal_bind_of_ok ended).trans ((next b).journal_eq _)
  | error e => exact journal_bind_of_error ended

theorem bind (first : w.Blind) (next : ∀ b, (f b).Blind) : (w >>= f).Blind := by
  intro j
  rw [run_bind, alone_bind next, trace_bind next, first.outcome_eq, first.journal_eq]
  cases w.alone with
  | ok b =>
      dsimp only
      rw [next b, Journal.append_assoc]
  | error e => rfl

theorem map {f : β → γ} (blind : w.Blind) : (f <$> w).Blind := by
  rw [← bind_pure_comp]
  exact blind.bind fun b => pure (f b)

theorem ofValues (x : Except ValueError β) : (Work.ofValues x : Work α β).Blind := by
  cases x with
  | ok b => exact pure b
  | error e => exact fail _

theorem inRange (x : Option β) : (Work.inRange x : Work α β).Blind := by
  cases x with
  | some b => exact pure b
  | none => exact abort

theorem require (collaborator : Collaborator) (context : String) (x : Except SourceError β) :
    (Work.require collaborator context x : Work α β).Blind := by
  cases x with
  | ok b => exact pure b
  | error e => exact fail _

theorem checkCount (curve : CurveName) (nodes sensitivities : Nat) :
    (Work.checkCount curve nodes sensitivities : Work α Unit).Blind := by
  unfold Work.checkCount
  split
  · exact pure ()
  · exact fail _

theorem attempt (blind : w.Blind) : w.attempt.Blind := by
  refine of_run (r := w.attempt.alone) (t := w.trace) fun j => ?_
  have outcome_eq : w.attempt.outcome j = w.attempt.alone := by
    rw [alone, outcome_attempt, outcome_attempt, blind.outcome_eq, alone]
  have journal_eq : w.attempt.journal j = j.append w.trace := by
    rw [journal_attempt, blind.journal_eq]
  rw [← outcome_eq, ← journal_eq]
  rfl

theorem notes (f : β → Event α) (l : List β) : (forM l fun b => Work.note (f b)).Blind := by
  induction l with
  | nil => exact pure ()
  | cons b rest ih =>
      rw [List.forM_cons]
      exact (note _).bind fun _ => ih

theorem mapM {f : β → Work α γ} (piece : ∀ b, (f b).Blind) (l : List β) : (l.mapM f).Blind := by
  induction l with
  | nil => exact pure []
  | cons b rest ih =>
      rw [List.mapM_cons]
      exact (piece b).bind fun c => ih.bind fun cs => pure _

end Blind

/-- The work forgets no call: it enters its own behind those that are there. -/
def Appends (w : Work α β) : Prop := ∀ j, j.calls.toList <+: (w.journal j).calls.toList

theorem Blind.appends {w : Work α β} (blind : w.Blind) : w.Appends := by
  intro j
  rw [blind.journal_eq, Journal.calls_append]
  exact List.prefix_append _ _

theorem Appends.prefix_bind {w : Work α β} {f : β → Work α γ} (next : ∀ b, (f b).Appends)
    (j : Journal α) : (w.journal j).calls.toList <+: ((w >>= f).journal j).calls.toList := by
  cases ended : w.outcome j with
  | ok b =>
      rw [journal_bind_of_ok ended]
      exact next b _
  | error e => exact ⟨[], by rw [journal_bind_of_error ended, List.append_nil]⟩

theorem Appends.bind {w : Work α β} {f : β → Work α γ} (first : w.Appends)
    (next : ∀ b, (f b).Appends) : (w >>= f).Appends :=
  fun j => (first j).trans (prefix_bind next j)

end Work

variable {α : Type}

theorem SensitivityBundle.blind_matchCurve (b : SensitivityBundle α) (curve : CurveName) :
    (b.matchCurve curve).Blind := by
  unfold matchCurve
  cases b.matched? curve with
  | none => exact .fail _
  | some m =>
      simp only
      split
      · exact .bind (.note _) fun _ => .pure _
      · exact .pure _

namespace Sources

variable [Quantity α] (s : Sources α)

theorem blind_conversionSeries (native output : Currency) (window : DateWindow) :
    (s.conversionSeries native output window).Blind := by
  refine .bind (.ask _ _) fun _ => .bind (.require _ _ _) fun pair => .bind (.ask _ _) fun _ =>
    .bind (.require _ _ _) fun history => .bind (.note _) fun _ => ?_
  split
  · exact .pure _
  · exact .ofValues _

theorem blind_pnlConversion (native : Currency) (output : Option Currency) (mode : ConversionMode)
    (window : DateWindow) (on : Date) : (s.pnlConversion native output mode window on).Blind := by
  unfold pnlConversion
  cases conversionNeeded native output with
  | none => exact .pure _
  | some output =>
      cases mode with
      | historicalSpot => exact .bind (s.blind_conversionSeries _ _ _) fun _ => .pure _
      | snapshot => exact .bind (.bind (.ask _ _) fun _ => .require _ _ _) fun _ => .pure _

theorem blind_quotedConversion (native : Currency) (output : Option Currency)
    (window : DateWindow) : (s.quotedConversion native output window).Blind := by
  unfold quotedConversion
  split
  · exact .pure _
  · exact .map (s.blind_conversionSeries _ _ _)

theorem blind_convertedReturns (history : DateSeries α) (conversion : Option (DateSeries α)) :
    (s.convertedReturns history conversion).Blind := by
  have taken (levels : DateSeries α) :
      (do Work.require .returnSeries "" (← s.askReturns levels)).Blind :=
    .bind (.ask _ _) fun _ => .require _ _ _
  cases conversion with
  | none => exact taken history
  | some rates => exact .bind (.ofValues _) taken

omit [Quantity α] in
theorem blind_quotedInputs (request : AttributionRequest) (curve : CurveName) (on : Date) :
    (s.quotedInputs request curve on).Blind := by
  refine .bind (.ask _ _) fun pair => .bind (.ask _ _) fun bundle => .bind (.ask _ _) fun _ => ?_
  split
  · exact .pure _
  · exact .fail _

theorem blind_quotedColumn (request : AttributionRequest) (curve : CurveName)
    (fetched : DateWindow) (conversion : Option (DateSeries α)) (node : CurveNode)
    (sensitivity : α) :
    (s.quotedColumn request curve fetched conversion node sensitivity).Blind :=
  .bind (.ask _ _) fun _ => .bind (.require _ _ _) fun _ =>
    .bind (s.blind_convertedReturns _ _) fun _ => .bind (.note _) fun _ => .pure _

/-- A run on a quoted curve finds its inputs first. What follows is blind. -/
theorem exists_attributeQuoted_eq (request : AttributionRequest) (curve : CurveName) (on : Date) :
    ∃ rest, s.attributeQuoted request curve on = s.quotedInputs request curve on >>= rest ∧
      ∀ inputs, (rest inputs).Blind := by
  refine ⟨_, s.attributeQuoted_eq request curve on, fun inputs =>
    .bind (inputs.1.blind_matchCurve curve) fun matched => .bind (.checkCount _ _ _) fun _ =>
    .bind (.inRange _) fun fetched => .bind (s.blind_quotedConversion _ _ _) fun conversion => ?_⟩
  exact .bind (.mapM (fun q : CurveNode × α =>
    s.blind_quotedColumn request curve fetched conversion q.1 q.2) _) fun _ => .pure _

theorem blind_attributeQuoted (request : AttributionRequest) (curve : CurveName) (on : Date) :
    (s.attributeQuoted request curve on).Blind := by
  obtain ⟨rest, same, blind⟩ := s.exists_attributeQuoted_eq request curve on
  rw [same]
  exact (s.blind_quotedInputs request curve on).bind blind

theorem blind_impliedInputs (request : AttributionRequest) (on : Date)
    (weeks : Nat := DateWindow.leadWeeks) : (s.impliedInputs request on weeks).Blind := by
  refine .bind (.ask _ _) fun pair => .bind (.ask _ _) fun bundle =>
    .bind (.inRange _) fun fetched =>
    .bind (.attempt (s.blind_pnlConversion _ _ _ _ _)) fun conversion => ?_
  split
  · exact .pure _
  · exact .fail _

theorem blind_apply (conversion : Conversion α) (pnl : DateSeries α) :
    (conversion.apply pnl).Blind := by
  cases conversion with
  | identity | snapshot => exact .pure _
  | historicalSpot rates =>
      exact .bind (.notes _ _) fun _ => .bind (.ofValues _) fun _ => .pure _

theorem blind_impliedColumn (request : AttributionRequest) (curve : CurveName)
    (conversion : Conversion α) (tenor : Tenor) (rates : DateSeries α) (sensitivity : α) :
    (s.impliedColumn request curve conversion tenor rates sensitivity).Blind :=
  .bind (s.blind_convertedReturns _ _) fun _ => .bind (blind_apply _ _) fun _ =>
    .bind (.note _) fun _ => .pure _

end Sources

end CurvePnl
