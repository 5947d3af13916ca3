import CurvePnl.Config.Form
import CurvePnl.Proofs.FailedInputs
import CurvePnl.Proofs.SharedSteps
import CurvePnl.Store.DataSet

/-! # Runs of configurations

An accepted configuration has a request, which has all that its choices need. One thing that the
check of a configuration leaves to the run is the position's pair: no market quotes a currency
against itself, so a position in one currency fails where the pair is asked for. No other
configuration does.
-/

namespace CurvePnl

variable {α : Type}

theorem UnorderedPair.of_first_eq_second_iff {a b : Currency} :
    (of a b).first = (of a b).second ↔ a = b := by
  unfold of
  split
  · rfl
  · exact eq_comm

theorem MarketConvention.exists_pair_iff {a b : Currency} :
    (∃ quoted, pair (.of a b) = .ok quoted) ↔ a ≠ b := by
  unfold pair
  split
  next same =>
    rw [UnorderedPair.of_first_eq_second_iff] at same
    exact ⟨nofun, fun different => absurd same different⟩
  next different =>
    rw [UnorderedPair.of_first_eq_second_iff] at different
    refine ⟨fun _ => different, fun _ => ?_⟩
    split <;> exact ⟨_, rfl⟩

theorem Collaborator.spares_causes {β : Type} {collaborator spared : Collaborator}
    (other : collaborator ≠ spared) (context : String) (x : Except SourceError β) :
    SourceFailure.Spares ⟨collaborator.causes context x⟩ spared := by
  cases x with
  | ok b => exact SourceFailure.Spares.empty
  | error e => exact SourceFailure.Spares.empty.push other

theorem SourceFailure.Spares.append {l m : List SourceCause} {spared : Collaborator}
    (first : Spares ⟨l⟩ spared) (second : Spares ⟨m⟩ spared) : Spares ⟨l ++ m⟩ spared :=
  List.forall_mem_append.mpr ⟨first, second⟩

/-- A failure of the sources is none of the pairs. -/
def AttributionError.SparesPairs (e : AttributionError) : Prop :=
  ∀ failure, e = .sources failure → failure.Spares .currencyPairs

namespace Sources

variable [Quantity α] {s : Sources α} {request : AttributionRequest} {on : Date}

omit [Quantity α] in
theorem spares_sharedCauses {quoted : CurrencyPair}
    (paired : s.pair request.position.pair = .ok quoted) :
    SourceFailure.Spares ⟨s.sharedCauses request on⟩ .currencyPairs := by
  rw [sharedCauses, paired]
  exact SourceFailure.Spares.empty.append (Collaborator.spares_causes (by decide) _ _)

omit [Quantity α] in
/-- If the pair of a position and all pairs of two currencies are quoted then no error is one of
the pairs. -/
theorem coversRun_sparesPairs
    (quotes : ∀ native output, output ≠ native → ∃ quoted, s.pair (.of native output) = .ok quoted)
    {quoted : CurrencyPair} (paired : s.pair request.position.pair = .ok quoted) :
    s.CoversRun request on AttributionError.SparesPairs where
  pair different unquoted := by
    obtain ⟨quoted, found⟩ := quotes _ _ different
    rw [found] at unquoted
    cases unquoted
  source other context e := by
    rintro failure ⟨⟩
    exact SourceFailure.Spares.empty.push other
  value e := by cases e <;> exact nofun
  nodeOrder _ _ := nofun
  cancelled _ := nofun
  quoted curve _ := by
    rintro failure ⟨⟩
    exact (spares_sharedCauses paired).append (Collaborator.spares_causes (by decide) _ _)
  merged others merged := by
    cases merged with
    | own failed =>
        rintro failure ⟨⟩
        exact spares_sharedCauses paired
    | sources =>
        rintro failure ⟨⟩
        exact (spares_sharedCauses paired).append (others _ rfl _ rfl)
    | only other => exact others _ rfl
    | last =>
        rintro failure ⟨⟩
        have other : Collaborator.historicalMarketData ≠ .currencyPairs := by decide
        exact (spares_sharedCauses paired).append (SourceFailure.Spares.empty.push other)
  missing _ := nofun
  count _ _ _ := nofun

omit [Quantity α] in
theorem MergedFailure.exists_sources {own : List SourceCause}
    {conversion : Except AttributionError (Conversion α)} {e : AttributionError}
    (merged : MergedFailure own conversion e) (failed : own ≠ []) :
    ∃ failure, e = .sources failure ∧ own ⊆ failure.causes := by
  cases merged with
  | own => exact ⟨_, rfl, List.Subset.refl _⟩
  | sources => exact ⟨_, rfl, List.subset_append_left _ _⟩
  | only _ alone => exact absurd alone failed
  | last => exact ⟨_, rfl, List.subset_append_left _ _⟩

omit [Quantity α] in
theorem exists_mem_sharedCauses (unpaired : ¬ ∃ quoted, s.pair request.position.pair = .ok quoted)
    (on : Date) : ∃ cause ∈ s.sharedCauses request on, cause.collaborator = .currencyPairs := by
  cases answer : s.pair request.position.pair with
  | ok quoted => exact absurd ⟨quoted, answer⟩ unpaired
  | error e => exact ⟨_, by rw [sharedCauses, answer]; exact List.mem_cons_self, rfl⟩

/-- A run fails in the pairs exactly if the position's pair is not quoted and the run gets to tell:
a run on an implied curve aborts before that if its fetched window leaves the calendar. -/
theorem run_fails_in_pairs_iff
    (quotes : ∀ native output, output ≠ native → ∃ quoted, s.pair (.of native output) = .ok quoted)
    (context : ValuationContext) (tokens : Tokens) :
    (∃ failure, (s.run request context tokens).1 = .error (.failed (.sources failure)) ∧
        ¬ failure.Spares .currencyPairs) ↔
      (¬ ∃ quoted, s.pair request.position.pair = .ok quoted) ∧
        (request.curve.isImplied = true → request.window.fetched?.isSome = true) := by
  constructor
  · rintro ⟨failure, failed, blamed⟩
    refine ⟨fun ⟨quoted, paired⟩ => ?_, fun implied => ?_⟩
    · have covers : s.CoversRun request context.date _ := coversRun_sparesPairs quotes paired
      exact blamed (fails_attribution covers _ _ failed _ rfl)
    · by_contra outside
      rw [Option.not_isSome_iff_eq_none] at outside
      rw [run_fst_eq] at failed
      cases kind : request.curve with
      | quoted curve => rw [kind] at implied; cases implied
      | implied curve construction =>
          rw [kind] at failed
          simp only [attributeImplied, impliedInputs, outside] at failed
          cases failed
  · rintro ⟨unpaired, within⟩
    obtain ⟨cause, member, pairs⟩ := exists_mem_sharedCauses unpaired context.date
    have blamed {failure : SourceFailure}
        (told : s.sharedCauses request context.date ⊆ failure.causes) :
        ¬ failure.Spares .currencyPairs := fun spares => spares cause (told member) pairs
    rw [run_fst_eq]
    generalize Journal.blank (tokens.isCancelled context.token) = j
    cases kind : request.curve with
    | quoted curve =>
        obtain ⟨-, -, told⟩ := run_quotedInputs s request curve context.date j
        have first : s.sharedCauses request context.date ⊆
            s.quotedCauses request curve context.date := List.subset_append_left _ _
        have failed := told (List.ne_nil_of_mem (first member))
        exact ⟨_, Work.outcome_bind_of_error failed, blamed first⟩
    | implied curve construction =>
        obtain ⟨fetched, lead⟩ := Option.isSome_iff_exists.mp (within (by rw [kind]; rfl))
        obtain ⟨conversion, attempted⟩ := exists_conversion s context.date lead
        obtain ⟨-, -, told⟩ := run_impliedInputs lead attempted j
        have some := List.ne_nil_of_mem member
        have failing : ∃ e, MergedFailure (s.sharedCauses request context.date) conversion e :=
          exists_mergedFailure (.inl some)
        obtain ⟨e, merged⟩ := failing
        obtain ⟨failure, rfl, first⟩ := merged.exists_sources some
        exact ⟨failure, Work.outcome_bind_of_error (told _ merged), blamed first⟩

end Sources

namespace Configuration

theorem parse_eq_ok_iff {format : DocumentFormat} {text : String} {c : Configuration} :
    parse format text = .ok c ↔ decode? format text = some c ∧ c.faults = [] := by
  have accepted (c' : Configuration) :
      (do c'.check; return c' : Except ConfigurationError Configuration) = .ok c ↔
        c' = c ∧ c'.faults = [] := by
    unfold check
    split
    next sound =>
      simp only [sound, and_true]
      exact ⟨Except.ok.inj, congrArg Except.ok⟩
    next faulty =>
      simp only [faulty, reduceCtorEq, and_false, iff_false]
      nofun
  unfold parse
  cases decode? format text with
  | none => simp
  | some c' =>
      simp only [accepted, Option.some.injEq]
      constructor <;> rintro ⟨rfl, sound⟩ <;> exact ⟨rfl, sound⟩

theorem faultIf_eq_nil_iff {reason : Bool} {fault : ConfigurationFault} :
    faultIf reason fault = [] ↔ reason = false := by
  cases reason <;> simp [faultIf]

theorem faults_eq_nil_iff {c : Configuration} :
    c.faults = [] ↔ Text.allBlank c.position.id = false ∧ Text.allBlank c.curve.name = false ∧
      c.start ≤ c.stop ∧ (c.isImplied = true → ∃ name, c.curve.construction = some name) ∧
      (c.historicalSpot = true → ∃ currency, c.outputCurrency = some currency) := by
  have ordered : ¬ c.stop < c.start ↔ c.start ≤ c.stop := Int.not_lt
  have absent {β : Type} (b : Bool) (o : Option β) :
      (b && o.isNone) = false ↔ (b = true → ∃ x, o = some x) := by
    cases b <;> cases o <;> simp
  simp only [faults, List.append_eq_nil_iff, faultIf_eq_nil_iff, decide_eq_false_iff_not, ordered,
    absent, and_assoc]

theorem isImplied_iff {c : Configuration} :
    c.isImplied = true ↔ c.curve.name ∈ c.impliedCurves := List.contains_iff_mem

theorem request_eq_ok {c : Configuration} (ordered : c.start ≤ c.stop) :
    c.request = .ok {
      position := c.position
      curve := c.identity
      curveCurrency := c.curve.currency
      window := ⟨c.start, c.stop, ordered⟩
      outputCurrency := c.outputCurrency
      mode := .ofFlag c.historicalSpot } := by
  rw [request, DateWindow.new, dif_pos ordered]

/-- An accepted configuration has a request for a window that is not reversed, an implied curve with
its construction, and an output currency where the mode needs one. A run of it on the data of any
files fails in the pairs exactly if the position is in one currency. -/
theorem run_of_accepted_fails_in_pairs_iff {format : DocumentFormat} {text : String}
    {c : Configuration} (accepted : parse format text = .ok c) :
    ∃ request, c.request = .ok request ∧
      request.position = c.position ∧ request.window.first = c.start ∧
      request.window.last = c.stop ∧ c.start ≤ c.stop ∧
      (∀ curve construction, request.curve = .implied curve construction ↔
        c.curve.name ∈ c.impliedCurves ∧ curve = c.curve.name ∧
          c.curve.construction = some construction) ∧
      (c.curve.name ∉ c.impliedCurves → request.curve = .quoted c.curve.name) ∧
      (request.mode = .historicalSpot → ∃ currency, request.outputCurrency = some currency) ∧
      ((∃ quoted, MarketConvention.pair request.position.pair = .ok quoted) ↔
        c.position.pay ≠ c.position.receive) ∧
      ∀ (files : DataSet) (context : ValuationContext) (tokens : Tokens),
        (∃ failure, ((files.sources c.returns).run request context tokens).1 =
            .error (.failed (.sources failure)) ∧ ¬ failure.Spares .currencyPairs) ↔
          c.position.pay = c.position.receive ∧
            (c.curve.name ∈ c.impliedCurves → request.window.fetched?.isSome = true) := by
  obtain ⟨-, sound⟩ := parse_eq_ok_iff.mp accepted
  obtain ⟨-, -, ordered, constructed, converted⟩ := faults_eq_nil_iff.mp sound
  have quoting : (∃ quoted, MarketConvention.pair c.position.pair = .ok quoted) ↔
      c.position.pay ≠ c.position.receive := MarketConvention.exists_pair_iff
  refine ⟨_, request_eq_ok ordered, rfl, rfl, rfl, ordered, ?_, ?_, ?_, quoting, ?_⟩
  · intro curve construction
    cases implied : c.isImplied with
    | false => simp [identity, implied, ← isImplied_iff]
    | true =>
        obtain ⟨name, named⟩ := constructed implied
        simp [identity, implied, ← isImplied_iff, named, eq_comm]
  · intro unlisted
    rw [← isImplied_iff, Bool.not_eq_true] at unlisted
    simp [identity, unlisted]
  · intro spot
    cases flag : c.historicalSpot with
    | true => exact converted flag
    | false => simp [flag, ConversionMode.ofFlag] at spot
  · intro files context tokens
    have implied : c.identity.isImplied = true ↔ c.curve.name ∈ c.impliedCurves := by
      rw [← isImplied_iff, identity]
      split <;> simp [CurveIdentity.isImplied, *]
    rw [Sources.run_fails_in_pairs_iff fun native output different =>
      MarketConvention.exists_pair_iff.mpr different.symm, implied]
    exact and_congr_left fun _ => (not_congr quoting).trans not_not

/-- A position in dollars alone, each record written as the array of its fields. -/
def dollarsForDollars : String :=
  "[[\"FXS-1\",\"USD\",\"USD\"],[\"USD-OIS\",\"USD\"],[],null,false,\"absolute\"," ++
    "[\"2025-01-13\",\"2025-01-17\"]]"

/-- What the text writes. -/
def dollarsOnly : Configuration where
  position := ⟨"FXS-1", .usd, .usd⟩
  curve := ⟨"USD-OIS", .usd, none⟩
  impliedCurves := []
  outputCurrency := none
  historicalSpot := false
  returns := .absolute
  start := .monday
  stop := ⟨739573, by decide, by decide⟩
  valuation := none

theorem parse_dollarsForDollars : parse .json dollarsForDollars = .ok dollarsOnly :=
  parse_eq_ok_iff.mpr ⟨by decide +kernel, by decide⟩

theorem run_dollarsOnly :
    parse .json dollarsForDollars = .ok dollarsOnly ∧
      ∃ request, dollarsOnly.request = .ok request ∧
        ∀ (files : DataSet) (context : ValuationContext) (tokens : Tokens),
          ∃ failure, ((files.sources .absolute).run request context tokens).1 =
            .error (.failed (.sources failure)) ∧ ¬ failure.Spares .currencyPairs := by
  obtain ⟨request, requested, -, -, -, -, -, -, -, -, fails⟩ :=
    run_of_accepted_fails_in_pairs_iff parse_dollarsForDollars
  exact ⟨parse_dollarsForDollars, request, requested, fun files context tokens =>
    (fails files context tokens).mpr ⟨rfl, nofun⟩⟩

/-- The request of dollars for dollars. -/
def dollarRequest : AttributionRequest where
  position := ⟨"FXS-1", .usd, .usd⟩
  curve := .quoted "USD-OIS"
  curveCurrency := .usd
  window := ⟨dollarsOnly.start, dollarsOnly.stop, by decide⟩
  outputCurrency := none
  mode := .snapshot

/-- So a configuration may be accepted whose pair is not quoted, and whose runs fail there. -/
theorem not_forall_accepted_pairs_quoted :
    (¬ ∀ format text c request, parse format text = .ok c → c.request = .ok request →
        ∃ quoted, MarketConvention.pair request.position.pair = .ok quoted) ∧
      ¬ ∀ format text c request, parse format text = .ok c → c.request = .ok request →
        ∀ (files : DataSet) (context : ValuationContext) (tokens : Tokens) failure,
          ((files.sources c.returns).run request context tokens).1 =
            .error (.failed (.sources failure)) → failure.Spares .currencyPairs := by
  have requested : dollarsOnly.request = .ok dollarRequest := rfl
  constructor
  · intro quoted
    obtain ⟨pair, found⟩ := quoted _ _ _ _ parse_dollarsForDollars requested
    cases found
  · intro spared
    have failed : (((⟨⟨[]⟩, .empty, .empty, .empty, .empty⟩ : DataSet).sources .absolute).run
        dollarRequest ⟨.monday, ⟨0⟩⟩ .none).1 = .error (.failed (.sources
          ⟨[⟨.currencyPairs, "USDUSD", ⟨.invalidInput, "degenerate pair USDUSD"⟩⟩,
            ⟨.curveSpecification, "USD-OIS", ⟨.notFound, "curve specification USD-OIS"⟩⟩]⟩)) := rfl
    have told := spared _ _ _ _ parse_dollarsForDollars requested _ _ _ _ failed
    exact told _ List.mem_cons_self rfl

end Configuration

end CurvePnl
