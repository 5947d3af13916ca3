import CurvePnl.Proofs.FailedInputs

/-! # The questions of a piece of work

What work asks is told by the list of its questions, in order. The questions of a composite are
those of its first part and then those of the next, if the first part succeeds. A list that is
worked on in order is asked about up to the first item that fails.
-/

namespace CurvePnl

/-- Of a list that is worked on in order, the items up to the first that is not ready. -/
inductive Reached {β : Type} (ready : β → Prop) : List β → List β → Prop where
  | nil : Reached ready [] []
  | last {b rest} (unready : ¬ ready b) : Reached ready (b :: rest) [b]
  | next {b rest reached} (first : ready b) (others : Reached ready rest reached) :
      Reached ready (b :: rest) (b :: reached)

namespace Reached

variable {β γ : Type} {ready : β → Prop} {l reached : List β}

theorem initial (h : Reached ready l reached) : reached <+: l := by
  induction h with
  | nil => exact List.prefix_rfl
  | last => exact List.prefix_append [_] _
  | next first others ih => exact List.cons_prefix_cons.mpr ⟨rfl, ih⟩

/-- An item is reached exactly if all items before it are ready. -/
theorem getElem?_iff (h : Reached ready l reached) {i : Nat} {b : β} :
    reached[i]? = some b ↔
      l[i]? = some b ∧ ∀ k earlier, k < i → l[k]? = some earlier → ready earlier := by
  induction h generalizing i with
  | nil => simp
  | @last c rest unready =>
      cases i with
      | zero => simp
      | succ i =>
          simp only [List.getElem?_cons_succ, List.getElem?_nil, reduceCtorEq, false_iff]
          intro ⟨_, all⟩
          exact unready (all 0 c (Nat.succ_pos i) rfl)
  | @next c rest reached first others ih =>
      cases i with
      | zero => simp
      | succ i =>
          simp only [List.getElem?_cons_succ, ih]
          constructor
          · intro ⟨here, all⟩
            refine ⟨here, ?_⟩
            intro k earlier before place
            cases k with
            | zero =>
                cases place
                exact first
            | succ k => exact all k earlier (Nat.lt_of_succ_lt_succ before) place
          · intro ⟨here, all⟩
            exact ⟨here, fun k earlier before => all (k + 1) earlier (Nat.succ_lt_succ before)⟩

theorem map {f : γ → β} {l reached : List γ} (h : Reached (fun c => ready (f c)) l reached) :
    Reached ready (l.map f) (reached.map f) := by
  induction h with
  | nil => exact .nil
  | last unready => exact .last unready
  | next first _ ih => exact .next first ih

end Reached

namespace Work

variable {α β γ : Type}

/-- The work asks these questions and no others, whatever happened before it. -/
def Asks (w : Work α β) (questions : List Call) : Prop :=
  ∀ j, (w.journal j).calls.toList = j.calls.toList ++ questions

theorem calls_bind_of_quiet {w : Work α β} {f : β → Work α γ} {j : Journal α}
    (quiet : ∀ b, w.outcome j = .ok b → (f b).Asks []) :
    ((w >>= f).journal j).calls.toList = (w.journal j).calls.toList := by
  cases ended : w.outcome j with
  | ok b => rw [journal_bind_of_ok ended, quiet b ended, List.append_nil]
  | error e => rw [journal_bind_of_error ended]

namespace Asks

variable {w : Work α β} {f : β → Work α γ} {l m : List Call}

theorem pure (b : β) : (Pure.pure b : Work α β).Asks [] := fun _ => (List.append_nil _).symm

theorem fail (e : AttributionError) : (Work.fail e : Work α β).Asks [] :=
  fun _ => (List.append_nil _).symm

theorem note (e : Event α) : (Work.note e).Asks [] := fun _ => (List.append_nil _).symm

theorem question (c : Call) (answer : Except SourceError β) :
    (Work.ask c answer : Work α _).Asks [c] := fun _ => Log.toList_push _ _

theorem after {b : β} (first : w.Asks l) (ok : ∀ j, w.outcome j = .ok b) (next : (f b).Asks m) :
    (w >>= f).Asks (l ++ m) := by
  intro j
  rw [journal_bind_of_ok (ok j), next, first, List.append_assoc]

theorem then_quiet (first : w.Asks l) (next : ∀ j b, w.outcome j = .ok b → (f b).Asks []) :
    (w >>= f).Asks l := by
  intro j
  rw [calls_bind_of_quiet (next j), first]

theorem ask {c : Call} {answer : Except SourceError β} {f : Except SourceError β → Work α γ}
    (next : (f answer).Asks l) : (Work.ask c answer >>= f).Asks (c :: l) :=
  (question c answer).after (fun _ => rfl) next

theorem ofValues (x : Except ValueError β) : (Work.ofValues x : Work α β).Asks [] := by
  cases x with
  | ok b => exact pure b
  | error e => exact fail _

theorem require (collaborator : Collaborator) (context : String) (x : Except SourceError β) :
    (Work.require collaborator context x : Work α β).Asks [] := by
  cases x with
  | ok b => exact pure b
  | error e => exact fail _

theorem inRange (x : Option β) : (Work.inRange x : Work α β).Asks [] := by
  cases x with
  | some b => exact pure b
  | none => exact fun _ => (List.append_nil _).symm

theorem checkCount (curve : CurveName) (nodes sensitivities : Nat) :
    (Work.checkCount curve nodes sensitivities : Work α Unit).Asks [] := by
  unfold Work.checkCount
  split
  · exact pure ()
  · exact fail _

theorem matchCurve (b : SensitivityBundle α) (curve : CurveName) :
    (b.matchCurve curve).Asks [] := by
  unfold SensitivityBundle.matchCurve
  cases b.matched? curve with
  | none => exact fail _
  | some m =>
      dsimp only
      split
      · exact then_quiet (note _) fun _ _ _ => pure _
      · exact pure _

theorem notes (f : β → Event α) (l : List β) : (forM l fun b => Work.note (f b)).Asks [] := by
  induction l with
  | nil => exact pure ()
  | cons b rest ih =>
      rw [List.forM_cons]
      exact then_quiet (note _) fun _ _ _ => ih

theorem attempt (asks : w.Asks l) : w.attempt.Asks l := by
  intro j
  rw [journal_attempt, asks]

theorem map {f : β → γ} (asks : w.Asks l) : (f <$> w).Asks l := by
  rw [← bind_pure_comp]
  exact asks.then_quiet fun _ _ _ => pure _

/-- Each item asks its own questions, and the work ends with the first item that is not ready. -/
theorem mapM {f : β → Work α γ} {questions : β → List Call} {ready : β → Prop}
    (piece : ∀ b, (f b).Asks (questions b))
    (ends : ∀ b j, (∃ c, (f b).outcome j = .ok c) ↔ ready b) (l : List β) :
    ∃ reached, Reached ready l reached ∧ (l.mapM f).Asks (reached.flatMap questions) := by
  induction l with
  | nil => exact ⟨[], .nil, pure []⟩
  | cons b rest ih =>
      obtain ⟨reached, others, asks⟩ := ih
      by_cases first : ready b
      · refine ⟨b :: reached, .next first others, ?_⟩
        intro j
        obtain ⟨c, ok⟩ := (ends b j).mpr first
        have later := asks.then_quiet (f := fun cs => Pure.pure (c :: cs)) fun _ _ _ => pure _
        rw [List.mapM_cons, journal_bind_of_ok ok, later, piece, List.append_assoc,
          List.flatMap_cons]
      · refine ⟨[b], .last first, ?_⟩
        intro j
        cases ended : (f b).outcome j with
        | ok c => exact absurd ((ends b j).mp ⟨c, ended⟩) first
        | error e => rw [List.mapM_cons, journal_bind_of_error ended, piece, List.flatMap_singleton]

end Asks

end Work

namespace Sources

variable {α : Type} [Quantity α] (s : Sources α)

/-- The questions that lead to a conversion series: the quoting order of the pair, and the history
of the pair if its order is known. -/
def seriesCalls (native output : Currency) (window : DateWindow) : List Call :=
  .pair (.of native output) :: match s.pair (.of native output) with
    | .ok pair => [.fxHistory pair window]
    | .error _ => []

theorem asks_conversionSeries (native output : Currency) (window : DateWindow) :
    (s.conversionSeries native output window).Asks (s.seriesCalls native output window) := by
  unfold seriesCalls
  apply Work.Asks.ask
  cases s.pair (.of native output) with
  | error e => exact .then_quiet (.require _ _ _) fun _ _ ok => nomatch ok
  | ok pair =>
      refine (Work.Asks.require _ _ _).after (fun _ => rfl) (.ask ?_)
      refine .then_quiet (.require _ _ _) fun _ history _ => .then_quiet (.note _) fun _ _ _ => ?_
      split
      · exact .pure _
      · exact .ofValues _

/-- The questions of a quoted curve's conversion; none if no conversion is needed. -/
def quotedConversionCalls (native : Currency) (output : Option Currency) (window : DateWindow) :
    List Call :=
  match conversionNeeded native output with
  | none => []
  | some output => s.seriesCalls native output window

theorem asks_quotedConversion (native : Currency) (output : Option Currency)
    (window : DateWindow) :
    (s.quotedConversion native output window).Asks
      (s.quotedConversionCalls native output window) := by
  unfold quotedConversion quotedConversionCalls
  cases conversionNeeded native output with
  | none => exact .pure none
  | some output => exact .map (s.asks_conversionSeries _ _ _)

/-- The questions of an implied curve's conversion; none if no conversion is needed. -/
def pnlConversionCalls (native : Currency) (output : Option Currency) (mode : ConversionMode)
    (window : DateWindow) (on : Date) : List Call :=
  match conversionNeeded native output, mode with
  | none, _ => []
  | some output, .historicalSpot => s.seriesCalls native output window
  | some output, .snapshot => [.fxRate native output on]

theorem asks_pnlConversion (native : Currency) (output : Option Currency) (mode : ConversionMode)
    (window : DateWindow) (on : Date) :
    (s.pnlConversion native output mode window on).Asks
      (s.pnlConversionCalls native output mode window on) := by
  unfold pnlConversion pnlConversionCalls
  cases conversionNeeded native output with
  | none => exact .pure _
  | some output =>
      cases mode with
      | historicalSpot =>
          exact .then_quiet (s.asks_conversionSeries _ _ _) fun _ _ _ => .pure _
      | snapshot =>
          have rate : (s.snapshotRate native output on).Asks [.fxRate native output on] :=
            .ask (.require _ _ _)
          exact rate.then_quiet fun _ _ _ => .pure _

/-- Returns are asked for unless a date of the history lacks a conversion rate. -/
def returnsCalls (history : DateSeries α) (conversion : Option (DateSeries α)) : List Call :=
  if conversion.all fun rates => history.dates.all fun d => (rates.valueOn? d).isSome then
    [.returns history.size]
  else []

theorem asks_convertedReturns (history : DateSeries α) (conversion : Option (DateSeries α)) :
    (s.convertedReturns history conversion).Asks (returnsCalls history conversion) := by
  have taken (levels : DateSeries α) : (do
      Work.require .returnSeries "" (← s.askReturns levels)).Asks [.returns levels.size] :=
    .ask (.require _ _ _)
  cases conversion with
  | none => exact taken history
  | some rates =>
      by_cases sampled : ∀ d ∈ history.dates, (rates.valueOn? d).isSome
      · obtain ⟨levels, product⟩ := DateSeries.exists_isProduct_iff.mpr sampled
        have size : levels.size = history.size := by
          simpa [DateSeries.dates, DateSeries.size] using congrArg List.length product.dates_eq
        have multiplied : history.multiplyAligned rates "conversion series" = .ok levels :=
          DateSeries.multiplyAligned_eq_ok.mpr product
        have questions : returnsCalls history (some rates) = [.returns levels.size] := by
          rw [size, returnsCalls, if_pos (by simpa using sampled)]
        rw [questions, convertedReturns, multiplied]
        exact taken levels
      · have questions : returnsCalls history (some rates) = [] := by
          rw [returnsCalls, if_neg (by simpa using sampled)]
        rw [questions]
        refine .then_quiet (.ofValues _) fun j levels multiplied => ?_
        have product := DateSeries.multiplyAligned_eq_ok.mp
          (Work.outcome_ofValues_eq_ok.mp multiplied)
        exact absurd (DateSeries.exists_isProduct_iff.mp ⟨levels, product⟩) sampled

/-- The questions of one node: its history, and then its returns. -/
def nodeCalls (request : AttributionRequest) (fetched : DateWindow)
    (conversion : Option (DateSeries α)) (node : CurveNode) : List Call :=
  .nodeHistory node.key fetched :: match s.nodeHistory node fetched with
    | .ok history => returnsCalls (history.trimTo request.window.first) conversion
    | .error _ => []

theorem asks_quotedColumn (request : AttributionRequest) (curve : CurveName) (fetched : DateWindow)
    (conversion : Option (DateSeries α)) (node : CurveNode) (sensitivity : α) :
    (s.quotedColumn request curve fetched conversion node sensitivity).Asks
      (s.nodeCalls request fetched conversion node) := by
  unfold nodeCalls
  apply Work.Asks.ask
  cases s.nodeHistory node fetched with
  | error e => exact .then_quiet (.require _ _ _) fun _ _ ok => nomatch ok
  | ok history =>
      have moves := s.asks_convertedReturns (history.trimTo request.window.first) conversion
      exact moves.then_quiet fun _ _ _ => .then_quiet (.note _) fun _ _ _ => .pure _

theorem asks_impliedColumn (request : AttributionRequest) (curve : CurveName)
    (conversion : Conversion α) (tenor : Tenor) (rates : DateSeries α) (sensitivity : α) :
    (s.impliedColumn request curve conversion tenor rates sensitivity).Asks
      [.returns (rates.trimTo request.window.first).size] := by
  have applied (pnl : DateSeries α) : (conversion.apply pnl).Asks [] := by
    cases conversion with
    | identity | snapshot => exact .pure _
    | historicalSpot rates =>
        exact .then_quiet (.notes _ _) fun _ _ _ => .then_quiet (.ofValues _) fun _ _ _ => .pure _
  exact .then_quiet (s.asks_convertedReturns _ none) fun _ _ _ =>
    .then_quiet (applied _) fun _ _ _ => .then_quiet (.note _) fun _ _ _ => .pure _

omit [Quantity α] in
theorem asks_recordDay (setup : ReplaySetup) (history : ImpliedHistory α) (day : Date)
    (answer : Except SourceError (ImpliedCurve α)) :
    (recordDay setup history day answer).Asks [] := by
  cases answer with
  | error e =>
      unfold recordDay
      dsimp only
      split
      · exact .then_quiet (.note _) fun _ _ _ => .pure _
      · exact .pure _
  | ok curve =>
      have gathered : (do
          let buckets ← Work.ofValues (ImpliedHistory.gather history.buckets day curve.points)
          Work.note (.curveBuilt day curve.points.length)
          return { history with buckets }.push (.built day curve.points.length) :
            Work α _).Asks [] :=
        .then_quiet (.ofValues _) fun _ _ _ => .then_quiet (.note _) fun _ _ _ => .pure _
      unfold recordDay
      dsimp only
      split
      · exact gathered
      · exact .then_quiet (.fail _) fun _ _ _ => gathered

end Sources

end CurvePnl
