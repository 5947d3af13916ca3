import CurvePnl.Attribution.Sources
import CurvePnl.Bucket

/-! # Replaying an implied curve

An implied curve has no quoted history. Its history is replayed by constructing the curve on every
day of the window with its lead, and gathering each day's rates per tenor. A day whose construction
fails is skipped; on working days that is worth a warning.
-/

namespace CurvePnl

/-- What came of one day of a replay. -/
inductive DayOutcome where
  | built (day : Date) (nodes : Nat)
  | skipped (day : Date) (reason : String) (logged : Bool)
  deriving DecidableEq

namespace DayOutcome

def day : DayOutcome → Date
  | built day _ => day
  | skipped day .. => day

def isBuilt : DayOutcome → Bool
  | built .. => true
  | skipped .. => false

end DayOutcome

/-- The replayed history of an implied curve. -/
structure ImpliedHistory (α : Type) where
  buckets : BucketCollection Tenor α
  outcomes : Log DayOutcome

namespace ImpliedHistory

def empty : ImpliedHistory α := ⟨.empty, .empty⟩

def builtDays (h : ImpliedHistory α) : Nat := h.outcomes.toList.countP DayOutcome.isBuilt

def skippedDays (h : ImpliedHistory α) : List Date :=
  (h.outcomes.toList.filter (!·.isBuilt)).map DayOutcome.day

def push (h : ImpliedHistory α) (o : DayOutcome) : ImpliedHistory α :=
  { h with outcomes := h.outcomes.push o }

/-- Adds the rates of one day to their buckets. -/
def gather (buckets : BucketCollection Tenor α) (day : Date) :
    List (Tenor × α) → Except ValueError (BucketCollection Tenor α)
  | [] => .ok buckets
  | (tenor, rate) :: rest =>
    match buckets.add day tenor rate with
    | (.error e, _) => .error e
    | (.ok (), buckets) => gather buckets day rest

end ImpliedHistory

/-- What a replay needs beside its window. -/
structure ReplaySetup where
  construction : ConstructionName
  /-- The days on which a failed construction is worth a warning. -/
  workingDay : Date → Bool := Date.isWeekday

namespace Sources

variable {α : Type} (s : Sources α)

/-- Constructs the curve of one day and adds it to the history. -/
def replayDay (setup : ReplaySetup) (history : ImpliedHistory α) (day : Date) :
    Work α (ImpliedHistory α) := do
  if (← get).cancelled then Work.fail (.cancelled day)
  match ← s.askImpliedCurve setup.construction day with
  | .error e =>
    let logged := setup.workingDay day
    if logged then Work.note (.constructionFailed day setup.construction e)
    return history.push (.skipped day e.message logged)
  | .ok curve =>
    unless curve.isAscending do Work.fail (.nodeOrder day curve.tenors)
    let buckets ← Work.ofValues (ImpliedHistory.gather history.buckets day curve.points)
    Work.note (.curveBuilt day curve.points.length)
    return { history with buckets }.push (.built day curve.points.length)

/-- The days from `day` to `last`, one after the other. Each day is worked on before the next is
looked for, and looking beyond the last date of all aborts. `fuel` bounds the number of days. -/
def replayFrom (setup : ReplaySetup) (last : Date) :
    Nat → ImpliedHistory α → Date → Work α (ImpliedHistory α)
  | 0, history, _ => return history
  | fuel + 1, history, day => do
    let next ← Work.inRange day.succ?
    let history ← s.replayDay setup history day
    if next ≤ last then replayFrom setup last fuel history next else return history

/-- Replays the history of an implied curve over a window with its lead. -/
def replay (setup : ReplaySetup) (window : DateWindow) (weeks : Nat := DateWindow.leadWeeks) :
    Work α (ImpliedHistory α) := do
  let fetched ← Work.inRange (window.fetched? weeks)
  s.replayFrom setup fetched.last fetched.size .empty fetched.first

end Sources

end CurvePnl
