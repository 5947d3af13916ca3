import CurvePnl.Attribution.Failure
import CurvePnl.Log
import CurvePnl.Sensitivity
import CurvePnl.Window

/-! # The journal of an attribution

An attribution asks its sources and notes what happens. The journal keeps both in order: every
call of a source, and every event worth telling. It also holds the cancellation flag, which a
source may set while it works.
-/

namespace CurvePnl

/-- A question put to a source. -/
inductive Call where
  | pair (pair : UnorderedPair)
  | sensitivities (position : PositionId) (on : Date)
  | specification (curve : CurveName) (on : Date)
  | nodeHistory (node : NodeKey) (window : DateWindow)
  | fxHistory (pair : CurrencyPair) (window : DateWindow)
  | fxRate (native output : Currency) (on : Date)
  | returns (samples : Nat)
  | impliedCurve (construction : ConstructionName) (on : Date)
  deriving DecidableEq

namespace Call

/-- The question in words. -/
def text : Call → String
  | pair p => "pair " ++ p.text
  | sensitivities position on => "sensitivities " ++ position ++ " " ++ on.text
  | specification curve on => "spec " ++ curve ++ " " ++ on.text
  | nodeHistory node window => "node " ++ node ++ " " ++ window.text
  | fxHistory quoted window => "fx " ++ quoted.text ++ " " ++ window.text
  | fxRate native output on => " ".intercalate ["rate", native.code, output.code, on.text]
  | returns samples => "returns " ++ toString samples
  | impliedCurve construction on => "implied " ++ construction ++ " " ++ on.text

end Call

/-- How much attention an event asks for. -/
inductive Level where
  | warn | info | debug
  deriving Repr, DecidableEq

namespace Level

def text : Level → String
  | warn => "WARN"
  | info => "INFO"
  | debug => "DEBUG"

/-- The place of the level, that with the most attention first. -/
def rank : Level → Nat
  | warn => 0
  | info => 1
  | debug => 2

end Level

/-- Something that happened during an attribution. -/
inductive Event (α : Type) where
  | ambiguousCurrencies (curve : CurveName) (currency : Currency) (ignored : Nat)
  | constructionFailed (date : Date) (construction : ConstructionName) (error : SourceError)
  | curveBuilt (date : Date) (nodes : Nat)
  | historyReplayed (curve : CurveName) (built skipped : Nat)
  | conversionLoaded (pair : CurrencyPair) (native output : Currency) (samples : Nat)
  | spotMissing (date : Date)
  | nodeAttributed (curve : CurveName) (node : NodeKey) (sensitivity : α) (samples : Nat)
  | tenorAttributed (curve : CurveName) (tenor : Tenor) (sensitivity : α) (samples : Nat)
  | complete (curve : CurveName) (position : PositionId) (implied : Bool) (buckets : Nat)
      (currency : Currency) (window : DateWindow)

/-- The value of a field of an event. -/
inductive EventField (α : Type) where
  | text (s : String)
  | count (n : Nat)
  | flag (b : Bool)
  | quantity (x : α)

namespace Event

def level : Event α → Level
  | ambiguousCurrencies .. | constructionFailed .. => .warn
  | complete .. => .info
  | _ => .debug

def message : Event α → String
  | ambiguousCurrencies .. => "curve has sensitivities in several currencies; using the first"
  | constructionFailed .. => "implied curve construction failed; skipping day"
  | curveBuilt .. => "implied curve built"
  | historyReplayed .. => "implied history replayed"
  | conversionLoaded .. => "conversion series loaded"
  | spotMissing .. => "no historical spot sample; dropping PnL date"
  | nodeAttributed .. => "node attributed"
  | tenorAttributed .. => "tenor attributed"
  | complete .. => "attribution complete"

/-- The named fields that go with the message. -/
def fields : Event α → List (String × EventField α)
  | ambiguousCurrencies curve currency ignored =>
    [("curve", .text curve), ("currency", .text currency.code), ("ignored", .count ignored)]
  | constructionFailed date construction error =>
    [("date", .text date.text), ("construction", .text construction),
      ("error", .text error.message)]
  | curveBuilt date nodes => [("date", .text date.text), ("nodes", .count nodes)]
  | historyReplayed curve built skipped =>
    [("curve", .text curve), ("built", .count built), ("skipped", .count skipped)]
  | conversionLoaded pair native output samples =>
    [("pair", .text pair.text), ("native", .text native.code), ("output", .text output.code),
      ("samples", .count samples)]
  | spotMissing date => [("date", .text date.text)]
  | nodeAttributed curve node sensitivity samples =>
    [("curve", .text curve), ("node", .text node), ("sensitivity", .quantity sensitivity),
      ("samples", .count samples)]
  | tenorAttributed curve tenor sensitivity samples =>
    [("curve", .text curve), ("tenor", .text tenor.text), ("sensitivity", .quantity sensitivity),
      ("samples", .count samples)]
  | complete curve position implied buckets currency window =>
    [("curve", .text curve), ("position", .text position), ("implied", .flag implied),
      ("buckets", .count buckets), ("currency", .text currency.code),
      ("window", .text window.text)]

end Event

/-- The events that ask for at least this much attention. -/
def eventsFrom (lowest : Level) (events : List (Event α)) : List (Event α) :=
  events.filter fun e => e.level.rank ≤ lowest.rank

/-- What happened so far. -/
structure Journal (α : Type) where
  calls : Log Call
  events : Log (Event α)
  cancelled : Bool

/-- The journal of work that has not begun. -/
def Journal.blank (cancelled : Bool) : Journal α := ⟨.empty, .empty, cancelled⟩

/-- Work that asks sources, notes events and may fail. -/
abbrev Work (α β : Type) := ExceptT (Halt AttributionError) (StateM (Journal α)) β

namespace Work

/-- Ends the work with an error. -/
def fail (e : AttributionError) : Work α β := throw (.failed e)

/-- A result computed on the side, whose error ends the work. -/
def ofExcept : Except AttributionError β → Work α β
  | .ok b => pure b
  | .error e => fail e

/-- A combination of values, whose error ends the work. -/
def ofValues : Except ValueError β → Work α β
  | .ok b => pure b
  | .error e => fail (.ofValueError e)

/-- A date computation, which aborts the work if it leaves the range of dates. -/
def inRange : Option β → Work α β
  | some b => pure b
  | none => throw .aborted

def note (e : Event α) : Work α Unit := modify fun j => { j with events := j.events.push e }

/-- Puts a question to a source and enters it in the journal. -/
def ask (c : Call) (answer : Except SourceError β) : Work α (Except SourceError β) := do
  modify fun j => { j with calls := j.calls.push c }
  return answer

/-- The outcome of a piece of work, caught so that other work can still be done. An abort is not
caught. -/
def attempt (w : Work α β) : Work α (Except AttributionError β) :=
  tryCatch (do return .ok (← w)) fun
    | .failed e => return .error e
    | .aborted => throw .aborted

end Work

end CurvePnl
