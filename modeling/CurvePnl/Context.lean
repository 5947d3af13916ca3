import CurvePnl.Date.Basic

/-! # Valuation contexts and cancellation

A valuation context is the date that a source is asked for, with a token through which the work
can be cancelled. Contexts that carry one token are cancelled together; a token stays cancelled.
-/

namespace CurvePnl

/-- A reference to a cancellation flag. -/
structure Token where
  index : Nat
  deriving Repr, DecidableEq

/-- The flags of all tokens handed out, true for those cancelled. -/
structure Tokens where
  flags : List Bool
  deriving Repr, DecidableEq

namespace Tokens

def none : Tokens := ⟨[]⟩

/-- A new token, not cancelled. -/
def create (t : Tokens) : Token × Tokens := (⟨t.flags.length⟩, ⟨t.flags ++ [false]⟩)

def cancel (t : Tokens) (token : Token) : Tokens := ⟨t.flags.set token.index true⟩

def isCancelled (t : Tokens) (token : Token) : Bool := t.flags.getD token.index false

end Tokens

/-- What a source is asked under. -/
structure ValuationContext where
  date : Date
  token : Token
  deriving DecidableEq

namespace ValuationContext

/-- A context with a token of its own. -/
def create (t : Tokens) (date : Date) : ValuationContext × Tokens :=
  let (token, t) := t.create
  (⟨date, token⟩, t)

/-- The same work on another date: the token is shared. -/
def onDate (c : ValuationContext) (date : Date) : ValuationContext := { c with date }

def withToken (c : ValuationContext) (token : Token) : ValuationContext := { c with token }

end ValuationContext

end CurvePnl
