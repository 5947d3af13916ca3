import CurvePnl.Proofs.Blind
import CurvePnl.Proofs.Replay

/-! # Cancelled replays

A replay looks at the cancellation flag before each day, and each day's construction may set it. A
day on which that happens, or on which the tenors do not ascend, is the last that is worked on.
If it is the last day anyway then a flag that it sets is never looked at. Runs on quoted curves
have nothing to do with the flag.
-/

namespace CurvePnl

theorem DateWindow.succ?_of_days {w : DateWindow} {before rest : List Date} {d next : Date}
    (split : w.days = before ++ d :: next :: rest) : d.succ? = some next := by
  have increasing := w.pairwise_days
  rw [split] at increasing
  obtain ⟨-, after, earlier⟩ := List.pairwise_append.mp increasing
  obtain ⟨above, after⟩ := List.pairwise_cons.mp after
  have early : d < next := above next List.mem_cons_self
  obtain ⟨e, follows⟩ := Date.exists_succ? (Int.lt_of_lt_of_le early next.number_le_last)
  have number := Date.succ?_eq_some.mp follows
  have inside (x : Date) (member : x ∈ d :: next :: rest) : w.first ≤ x ∧ x ≤ w.last :=
    DateWindow.mem_days.mp (split ▸ List.mem_append_right before member)
  have first := (inside d (by simp)).1
  have last := (inside next (by simp)).2
  rw [Date.le_def] at first last
  rw [Date.lt_def] at early
  -- The day after `d` is a day of the window, and it is neither before `d` nor after `next`.
  have member : e ∈ before ++ d :: next :: rest := by
    rw [← split, DateWindow.mem_days, Date.le_def, Date.le_def]
    omega
  rw [List.mem_append, List.mem_cons, List.mem_cons] at member
  rcases member with member | rfl | rfl | member
  · have := earlier e member d List.mem_cons_self
    rw [Date.lt_def] at this
    omega
  · omega
  · exact follows
  · have := (List.pairwise_cons.mp after).1 e member
    rw [Date.lt_def] at this
    omega

theorem DateWindow.exists_days_eq_cons (w : DateWindow) : ∃ after, w.days = w.first :: after := by
  obtain ⟨n, count⟩ : ∃ n, (w.last.number + 1 - w.first.number).toNat = n + 1 := by
    have inside := Date.le_def.mp w.first_le_last
    exact ⟨(w.last.number - w.first.number).toNat, by omega⟩
  have here : Date.ofNumber? w.first.number = some w.first := Date.ofNumber?_eq_some_iff.mpr rfl
  simp [DateWindow.days, Date.through, count, List.range_succ_eq_map, here]

/-- The end of a window, and no other of its days, has no day of the window after it. -/
theorem DateWindow.eq_last_iff {w : DateWindow} {made rest : List Date} {d : Date}
    (split : w.days = made ++ rest) (last : made.getLast? = some d) : d = w.last ↔ rest = [] := by
  obtain ⟨before, days, -⟩ := w.exists_days_eq
  obtain ⟨made, rfl⟩ := List.getLast?_eq_some_iff.mp last
  constructor
  · rintro rfl
    by_contra more
    obtain ⟨next, later, rfl⟩ := List.exists_cons_of_ne_nil more
    have increasing := w.pairwise_days
    have inside : next ≤ w.last := (DateWindow.mem_days.mp (split ▸ by simp)).2
    rw [split] at increasing
    have after := (List.pairwise_append.mp increasing).2.2 w.last (by simp) next (by simp)
    rw [Date.le_def] at inside
    rw [Date.lt_def] at after
    omega
  · rintro rfl
    rw [List.append_nil, days] at split
    exact (List.append_inj_right' split rfl |> List.singleton_inj.mp).symm

theorem Tokens.cancel_of_isCancelled {tokens : Tokens} {token : Token}
    (cancelled : tokens.isCancelled token = true) : tokens.cancel token = tokens := by
  obtain ⟨flags⟩ := tokens
  simp only [isCancelled, List.getD_eq_getElem?_getD] at cancelled
  simp only [cancel, Tokens.mk.injEq]
  apply List.ext_getElem?
  intro i
  grind

namespace Sources

variable {α : Type} {s : Sources α} {setup : ReplaySetup} {j : Journal α}

/-- Nothing on the day ends a replay. -/
structure Calm (s : Sources α) (construction : ConstructionName) (day : Date) : Prop where
  undisturbed : (s.impliedCurve construction day).cancels = false
  ascends : s.Ascends construction day

theorem calm_or_exists_first (construction : ConstructionName) (days : List Date) :
    (∀ d ∈ days, s.Calm construction d) ∨
      ∃ before d rest, days = before ++ d :: rest ∧ (∀ e ∈ before, s.Calm construction e) ∧
        ¬ s.Calm construction d := by
  classical
  cases found : days.find? fun d => ¬ s.Calm construction d with
  | none => exact .inl (by simpa using found)
  | some d =>
      obtain ⟨disturbed, before, rest, split, calm⟩ := List.find?_eq_some_iff_append.mp found
      exact .inr ⟨before, d, rest, split, by simpa using calm, by simpa using disturbed⟩

/-- The history tells of the given days and of no others. -/
structure Tells (s : Sources α) (setup : ReplaySetup) (days : List Date)
    (history : ImpliedHistory α) : Prop where
  outcomes : history.outcomes.toList = days.map (s.dayOutcome setup)
  buckets : ∀ tenor series, history.buckets.get? tenor = some series ↔
    s.Reported setup.construction days tenor ∧
      series.samples = s.harvest setup.construction days tenor

theorem Replayed.tells {before : Journal α} {days : List Date} {history : ImpliedHistory α}
    (replayed : s.Replayed setup before days history j) : s.Tells setup days history where
  outcomes := replayed.outcomes
  buckets _ _ := replayed.get?_eq_some_iff

/-- How work that begins with the journal `j` can end, if it has asked for the days `made` and not
for the days `rest`, and which journal it leaves. -/
inductive DaysEnd (s : Sources α) (setup : ReplaySetup) (j : Journal α) :
    List Date → List Date → Except (Halt AttributionError) (ImpliedHistory α) × Journal α → Prop
    where
  /-- It was cancelled before it began. -/
  | unasked {d rest} (flag : j.cancelled = true) :
      DaysEnd s setup j [] (d :: rest) (.error (.failed (.cancelled d)), j)
  /-- A day had disordered tenors. -/
  | disordered {made d rest curve history after} (live : j.cancelled = false)
      (calm : ∀ e ∈ made, s.Calm setup.construction e)
      (replayed : s.Replayed setup j made history after)
      (built : (s.impliedCurve setup.construction d).curve = .ok curve)
      (disorder : ¬ Ascending curve.tenors) :
      DaysEnd s setup j (made ++ [d]) rest
        (.error (.failed (.nodeOrder d curve.tenors)), s.asked setup.construction d after)
  /-- A day set the flag, and there was another day. -/
  | cancelled {made d next rest history after} (live : j.cancelled = false)
      (calm : ∀ e ∈ made, s.Calm setup.construction e)
      (replayed : s.Replayed setup j (made ++ [d]) history after)
      (ascends : s.Ascends setup.construction d)
      (cancels : (s.impliedCurve setup.construction d).cancels = true) :
      DaysEnd s setup j (made ++ [d]) (next :: rest) (.error (.failed (.cancelled next)), after)
  /-- All days were worked on. -/
  | finished {made history after} (live : made ≠ [] → j.cancelled = false)
      (calm : ∀ e ∈ made.dropLast, s.Calm setup.construction e)
      (ascends : ∀ d ∈ made, s.Ascends setup.construction d)
      (replayed : s.Replayed setup j made history after) :
      DaysEnd s setup j made [] (.ok history, after)

/-- Work on increasing days ends in one of these ways. -/
theorem exists_days_end (s : Sources α) (setup : ReplaySetup) (j : Journal α) {days : List Date}
    (increasing : days.Pairwise (· < ·)) :
    ∃ made rest, days = made ++ rest ∧
      s.DaysEnd setup j made rest ((days.foldlM (s.replayDay setup) .empty).run.run j) := by
  cases flag : j.cancelled with
  | true =>
      cases days with
      | nil => exact ⟨[], [], rfl, .finished (by simp) (by simp) (by simp) .of_no_days⟩
      | cons d rest =>
          have stopped : (s.replayDay setup .empty d).run.run j = _ :=
            run_replayDay_of_cancelled flag
          rw [List.foldlM_cons, Work.run_bind, Work.outcome, Work.journal, stopped]
          exact ⟨[], d :: rest, rfl, .unasked flag⟩
  | false =>
      rcases calm_or_exists_first (s := s) setup.construction days with
        calm | ⟨before, d, rest, rfl, calm, disturbed⟩
      · obtain ⟨history, after, -, replayed, ran⟩ := exists_replayed flag increasing
          (fun d member => (calm d member).ascends) fun d member => (calm d member).undisturbed
        have ran := ran []
        rw [List.append_nil] at ran
        rw [ran]
        exact ⟨days, [], (List.append_nil _).symm, .finished (fun _ => flag)
          (fun e member => calm e ((List.dropLast_sublist days).mem member))
          (fun d member => (calm d member).ascends) replayed⟩
      · obtain ⟨earlier, -, order⟩ := List.pairwise_append.mp increasing
        obtain ⟨history, after, live, replayed, ran⟩ := exists_replayed flag earlier
          (fun e member => (calm e member).ascends) fun e member => (calm e member).undisturbed
        rw [ran, List.foldlM_cons, Work.run_bind, Work.outcome, Work.journal]
        refine ⟨before ++ [d], rest, List.append_cons before d rest, ?_⟩
        by_cases ascends : s.Ascends setup.construction d
        · have cancels : (s.impliedCurve setup.construction d).cancels = true := by
            by_contra undisturbed
            exact disturbed ⟨eq_false_of_ne_true undisturbed, ascends⟩
          obtain ⟨history', after', ran', replayed'⟩ := replayed.exists_step live
            (fun e member => order e member d List.mem_cons_self) ascends
          have flag' := (replayed.cancelled_of_step live replayed').trans cancels
          rw [ran']
          cases rest with
          | nil =>
              refine .finished (fun _ => flag) ?_ ?_ replayed'
              · rwa [List.dropLast_concat]
              · simpa [or_imp, forall_and, ascends] using fun e member => (calm e member).ascends
          | cons next rest =>
              have stopped : (s.replayDay setup history' next).run.run after' = _ :=
                run_replayDay_of_cancelled flag'
              simp only [List.foldlM_cons, Work.run_bind, Work.outcome, Work.journal, stopped]
              exact .cancelled flag calm replayed' ascends cancels
        · simp only [Ascends, not_forall] at ascends
          obtain ⟨curve, built, disorder⟩ := ascends
          rw [run_replayDay_of_disorder live built disorder]
          exact .disordered flag calm replayed built disorder

namespace DaysEnd

variable {made rest : List Date} {d : Date}
  {result : Except (Halt AttributionError) (ImpliedHistory α) × Journal α}

theorem calls (ended : s.DaysEnd setup j made rest result) :
    result.2.calls.toList = j.calls.toList ++ made.map (.impliedCurve setup.construction) := by
  cases ended with
  | unasked => simp
  | disordered live calm replayed built disorder => simp [asked, replayed.calls]
  | cancelled live calm replayed => exact replayed.calls
  | finished live calm ascends replayed => exact replayed.calls

theorem eq_nil_of_cancelled (ended : s.DaysEnd setup j made rest result)
    (flag : j.cancelled = true) : made = [] := by
  by_contra asked
  have live : j.cancelled = false := by
    cases ended with
    | unasked => exact absurd rfl asked
    | disordered live | cancelled live => exact live
    | finished live => exact live asked
  rw [flag] at live
  cases live

theorem calm (ended : s.DaysEnd setup j made rest result) :
    ∀ e ∈ made.dropLast, s.Calm setup.construction e := by
  cases ended with
  | unasked => simp
  | disordered live calm => rwa [List.dropLast_concat]
  | cancelled live calm => rwa [List.dropLast_concat]
  | finished live calm => exact calm

/-- The work ends early only if it is cancelled from the beginning, or after a day that was not
calm. -/
theorem disturbed (ended : s.DaysEnd setup j made rest result) (live : j.cancelled = false)
    (early : rest ≠ []) : ∃ d, made.getLast? = some d ∧ ¬ s.Calm setup.construction d := by
  cases ended with
  | unasked flag => simp [live] at flag
  | @disordered made d rest curve _ _ live calm replayed built disorder =>
      exact ⟨d, List.getLast?_concat, fun calm => disorder (calm.ascends curve built)⟩
  | @cancelled made d _ _ _ _ live calm replayed ascends cancels =>
      refine ⟨d, List.getLast?_concat, fun calm => ?_⟩
      rw [calm.undisturbed] at cancels
      cases cancels
  | finished => exact absurd rfl early

theorem getLast?_of_cancels (ended : s.DaysEnd setup j made rest result) (asked : d ∈ made)
    (cancels : (s.impliedCurve setup.construction d).cancels = true) :
    made.getLast? = some d := by
  obtain ⟨before, last, rfl⟩ :=
    (List.eq_nil_or_concat' made).resolve_left (List.ne_nil_of_mem asked)
  rcases List.mem_append.mp asked with member | member
  · have calm := ended.calm d (by rwa [List.dropLast_concat])
    rw [calm.undisturbed] at cancels
    cases cancels
  · rw [List.mem_singleton.mp member, List.getLast?_concat]

/-- After the day that sets the flag, disorder counts first, and then whether there is another
day. -/
theorem of_cancels (ended : s.DaysEnd setup j made rest result) (asked : d ∈ made)
    (cancels : (s.impliedCurve setup.construction d).cancels = true) :
    result.2.cancelled = true ∧
      (∀ curve, (s.impliedCurve setup.construction d).curve = .ok curve →
        ¬ Ascending curve.tenors → result.1 = .error (.failed (.nodeOrder d curve.tenors))) ∧
      (s.Ascends setup.construction d →
        (rest = [] → ∃ history, result.1 = .ok history) ∧
        ∀ next later, rest = next :: later → result.1 = .error (.failed (.cancelled next))) := by
  have last := ended.getLast?_of_cancels asked cancels
  cases ended with
  | unasked => cases asked
  | @disordered made d' rest curve _ _ live calm replayed built disorder =>
      rw [List.getLast?_concat, Option.some.injEq] at last
      subst last
      refine ⟨by simp [Sources.asked, cancels], ?_,
        fun ascends => absurd (ascends curve built) disorder⟩
      intro curve' built' _
      rw [built, Except.ok.injEq] at built'
      rw [built']
  | @cancelled made d' next _ _ _ live calm replayed ascends =>
      rw [List.getLast?_concat, Option.some.injEq] at last
      subst last
      refine ⟨by simp [replayed.cancelled, cancels], ?_, fun _ => ⟨by simp, ?_⟩⟩
      · intro curve built disorder
        exact absurd (ascends curve built) disorder
      · rintro _ _ same
        cases same
        rfl
  | @finished made history _ live calm ascends replayed =>
      refine ⟨?_, ?_, fun _ => ⟨fun _ => ⟨history, rfl⟩, by simp⟩⟩
      · rw [replayed.cancelled, List.any_eq_true.mpr ⟨d, asked, cancels⟩, Bool.or_true]
      · intro curve built disorder
        exact absurd (ascends d asked curve built) disorder

theorem of_ok (ended : s.DaysEnd setup j made rest result) {history : ImpliedHistory α}
    (ok : result.1 = .ok history) : rest = [] ∧ s.Tells setup made history := by
  cases ended with
  | unasked | disordered | cancelled => cases ok
  | finished live calm ascends replayed =>
      cases ok
      exact ⟨rfl, replayed.tells⟩

end DaysEnd

theorem run_quoted_ignores_tokens [Quantity α] {request : AttributionRequest} {curve : CurveName}
    (quoted : request.curve = .quoted curve) (on : Date) (token token' : Token)
    (tokens tokens' : Tokens) :
    (s.run request ⟨on, token⟩ tokens).1 = (s.run request ⟨on, token'⟩ tokens').1 ∧
      (s.run request ⟨on, token⟩ tokens).2.1.calls =
        (s.run request ⟨on, token'⟩ tokens').2.1.calls ∧
      (s.run request ⟨on, token⟩ tokens).2.1.events =
        (s.run request ⟨on, token'⟩ tokens').2.1.events ∧
      (s.run request ⟨on, token⟩ tokens).2.2 = tokens := by
  have blind : (s.attribution request on).Blind := by
    unfold attribution
    rw [quoted]
    exact .bind (s.blind_attributeQuoted request curve on) fun _ => .bind (.note _) fun _ => .pure _
  have ran (token : Token) (tokens : Tokens) := blind (.blank (tokens.isCancelled token))
  simp only [run, ran]
  exact ⟨trivial, rfl, rfl, ite_eq_right_iff.mpr Tokens.cancel_of_isCancelled⟩

/-- A replay whose flag is set beforehand asks for no curve, and names the first of its days. If the
flag is set while the curve of a day is constructed, then that curve is the last that is asked for:
the replay fails with the disorder of its tenors, or else names the next day, or else is complete
since there is no next day. No replay that yields a history leaves out a day of the fetched window.
Runs on quoted curves do not depend on the flag. -/
theorem replay_stops_after_cancellation [Quantity α] (s : Sources α) (setup : ReplaySetup)
    {window fetched : DateWindow} (lead : window.fetched? = some fetched)
    (bounded : window.last < Date.last) (j : Journal α) :
    (∃ made rest, fetched.days = made ++ rest ∧
      ((s.replay setup window).journal j).calls.toList =
        j.calls.toList ++ made.map (.impliedCurve setup.construction) ∧
      (j.cancelled = true → made = [] ∧
        (s.replay setup window).run.run j = (.error (.failed (.cancelled fetched.first)), j)) ∧
      (j.cancelled = false → rest ≠ [] →
        ∃ d, made.getLast? = some d ∧ ¬ s.Calm setup.construction d) ∧
      (∀ d ∈ made.dropLast, s.Calm setup.construction d) ∧
      (∀ d ∈ made, (s.impliedCurve setup.construction d).cancels = true →
        made.getLast? = some d ∧ ((s.replay setup window).journal j).cancelled = true ∧
        (∀ curve, (s.impliedCurve setup.construction d).curve = .ok curve →
          ¬ Ascending curve.tenors →
          (s.replay setup window).outcome j = .error (.failed (.nodeOrder d curve.tenors))) ∧
        (s.Ascends setup.construction d → d ≠ fetched.last → ∃ next, d.succ? = some next ∧
          (s.replay setup window).outcome j = .error (.failed (.cancelled next))) ∧
        (s.Ascends setup.construction d → d = fetched.last →
          ∃ history, (s.replay setup window).outcome j = .ok history)) ∧
      ∀ history, (s.replay setup window).outcome j = .ok history →
        made = fetched.days ∧ s.Tells setup fetched.days history) ∧
    ∀ (request : AttributionRequest) (curve : CurveName), request.curve = .quoted curve →
      ∀ (on : Date) (token token' : Token) (tokens tokens' : Tokens),
        (s.run request ⟨on, token⟩ tokens).1 = (s.run request ⟨on, token'⟩ tokens').1 ∧
        (s.run request ⟨on, token⟩ tokens).2.1.calls =
          (s.run request ⟨on, token'⟩ tokens').2.1.calls ∧
        (s.run request ⟨on, token⟩ tokens).2.1.events =
          (s.run request ⟨on, token'⟩ tokens').2.1.events ∧
        (s.run request ⟨on, token⟩ tokens).2.2 = tokens := by
  refine ⟨?_, fun request curve quoted => run_quoted_ignores_tokens quoted⟩
  obtain ⟨made, rest, split, ended⟩ := exists_days_end s setup j fetched.pairwise_days
  rw [Work.outcome, Work.journal, replay_eq_foldlM lead bounded]
  refine ⟨made, rest, split, ended.calls, ?_, ended.disturbed, ended.calm, ?_, ?_⟩
  · intro flag
    obtain ⟨after, days⟩ := fetched.exists_days_eq_cons
    rw [days, List.foldlM_cons, Work.run_bind, Work.outcome, Work.journal,
      run_replayDay_of_cancelled flag]
    exact ⟨ended.eq_nil_of_cancelled flag, rfl⟩
  · intro d asked cancels
    have last := ended.getLast?_of_cancels asked cancels
    obtain ⟨flag, disorder, ascends⟩ := ended.of_cancels asked cancels
    have isLast := DateWindow.eq_last_iff split last
    refine ⟨last, flag, disorder, ?_,
      fun ascending final => (ascends ascending).1 (isLast.mp final)⟩
    intro ascending early
    obtain ⟨next, later, rfl⟩ := List.exists_cons_of_ne_nil (mt isLast.mpr early)
    obtain ⟨made, rfl⟩ := List.getLast?_eq_some_iff.mp last
    rw [List.append_assoc] at split
    exact ⟨next, DateWindow.succ?_of_days split, (ascends ascending).2 next later rfl⟩
  · intro history ok
    obtain ⟨rfl, tells⟩ := ended.of_ok ok
    rw [List.append_nil] at split
    exact ⟨split.symm, split ▸ tells⟩

/-- Curves as in `sparseCurve`, of which that of Friday cancels the work. -/
def cancelsOnFriday : Sources Float :=
  { silent with
    impliedCurve := fun construction day =>
      ⟨(sparseCurve.impliedCurve construction day).curve, decide (day = .friday)⟩ }

theorem replay_cancelsOnFriday :
    monday.fetched? = some weekToMonday ∧ monday.last < Date.last ∧
      (cancelsOnFriday.replay ⟨"OIS", Date.isWeekday⟩ monday).outcome (.blank false) =
        .error (.failed (.cancelled ⟨739567, by decide, by decide⟩)) := by
  have lead : monday.fetched? = some weekToMonday := by decide
  have bounded : monday.last < Date.last := by decide
  have ascends (d : Date) : cancelsOnFriday.Ascends "OIS" d := ascends_sparseCurve "OIS" d
  have calm (d : Date) (other : d ≠ .friday) : cancelsOnFriday.Calm "OIS" d :=
    ⟨decide_eq_false other, ascends d⟩
  have inside : .friday ∈ weekToMonday.days := DateWindow.mem_days.mpr (by decide)
  obtain ⟨made, rest, split, -, -, disturbed, -, cancelled, -⟩ :=
    (replay_stops_after_cancellation cancelsOnFriday ⟨"OIS", Date.isWeekday⟩ lead bounded
      (.blank false)).1
  -- The work reaches Friday, since no day before it is disturbed.
  have asked : .friday ∈ made := by
    by_contra unasked
    have more : rest ≠ [] := by
      rintro rfl
      rw [split, List.append_nil] at inside
      exact unasked inside
    obtain ⟨d, last, disturbance⟩ := disturbed rfl more
    have other : d ≠ .friday := by
      rintro rfl
      exact unasked (List.mem_of_getLast? last)
    exact disturbance (calm d other)
  obtain ⟨-, -, -, between, -⟩ := cancelled .friday asked rfl
  obtain ⟨next, follows, failed⟩ := between (ascends .friday) (by decide)
  have saturday : Date.succ? .friday = some ⟨739567, by decide, by decide⟩ := by decide
  rw [saturday, Option.some.injEq] at follows
  exact ⟨lead, bounded, follows ▸ failed⟩

end Sources

end CurvePnl
