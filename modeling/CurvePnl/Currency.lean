import CurvePnl.Text.Blank
import CurvePnl.Text.Upper
import CurvePnl.ValueError

/-! # Currencies and pairs of them

The currencies of the book, ordered as listed; pairs in quoting order, where a rate for EUR/USD is
the number of USD for one EUR; and pairs without a direction.
-/

namespace CurvePnl

/-- A currency, in the canonical order. -/
inductive Currency where
  | usd | eur | gbp | jpy | chf | cad | aud | nzd | sek | nok | dkk | hkd | sgd
  deriving Repr, DecidableEq, Inhabited

namespace Currency

def all : List Currency :=
  [usd, eur, gbp, jpy, chf, cad, aud, nzd, sek, nok, dkk, hkd, sgd]

/-- The place in the canonical order. -/
def rank (c : Currency) : Nat := all.idxOf c

/-- The code of three letters. -/
def code : Currency → String
  | usd => "USD"
  | eur => "EUR"
  | gbp => "GBP"
  | jpy => "JPY"
  | chf => "CHF"
  | cad => "CAD"
  | aud => "AUD"
  | nzd => "NZD"
  | sek => "SEK"
  | nok => "NOK"
  | dkk => "DKK"
  | hkd => "HKD"
  | sgd => "SGD"

/-- The currency with exactly this code. -/
def ofCode? (code : String) : Option Currency := all.find? (·.code == code)

/-- The currency with this code, blanks and letter case apart. -/
def ofText? (s : String) : Option Currency :=
  ofCode? (String.ofList (Text.upper (Text.trimmed s.toList)))

/-- Reads a currency that a person wrote. -/
def parse (s : String) : Except ValueError Currency :=
  match ofText? s with
  | some c => .ok c
  | none => .error (.unknownCurrency s)

end Currency

/-- Two currencies in quoting order: a rate is the amount of `quote` for one unit of `base`. -/
structure CurrencyPair where
  base : Currency
  quote : Currency
  deriving Repr, DecidableEq

namespace CurrencyPair

def inverse (p : CurrencyPair) : CurrencyPair := ⟨p.quote, p.base⟩

/-- The six letters under which the history of the pair is kept. -/
def code (p : CurrencyPair) : String := p.base.code ++ p.quote.code

def text (p : CurrencyPair) : String := p.base.code ++ "/" ++ p.quote.code

end CurrencyPair

/-- Two currencies without a quoting direction, held in canonical order. -/
structure UnorderedPair where
  first : Currency
  second : Currency
  ordered : first.rank ≤ second.rank
  deriving DecidableEq

namespace UnorderedPair

/-- The pair of two currencies, whichever is given first. -/
def of (a b : Currency) : UnorderedPair :=
  if h : a.rank ≤ b.rank then ⟨a, b, h⟩ else ⟨b, a, by omega⟩

def contains (p : UnorderedPair) (c : Currency) : Bool := p.first == c || p.second == c

def text (p : UnorderedPair) : String := p.first.code ++ p.second.code

end UnorderedPair

end CurvePnl
