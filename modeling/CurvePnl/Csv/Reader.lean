/-! # Splitting comma-separated text

Records end at line feeds or carriage returns, and lines without any character are no records.
Fields end at commas. A field that starts with a quote goes on to the closing quote, whatever
stands between; a doubled quote in it is one quote, and what follows the closing quote is taken as
it is. Text that ends within a field ends the record too. All of this concerns single bytes.
-/

namespace CurvePnl.Csv

/-- The bytes of a field. -/
abbrev RawField := List UInt8

abbrev RawRecord := List RawField

/-- Where in the text the splitter is. -/
inductive Place where
  | recordStart
  | fieldStart
  | inField
  | inQuotes
  /-- After a quote within a quoted field, which closes the field or is the first of two. -/
  | afterQuote
  deriving Repr, DecidableEq

/-- What was split so far: the bytes of the field that is being read, the fields of its record
before it and the records before that, each of them last first. -/
structure Splitter where
  place : Place
  field : List UInt8
  fields : List RawField
  records : List RawRecord
  deriving Repr

namespace Splitter

def start : Splitter := ⟨.recordStart, [], [], []⟩

def keep (s : Splitter) (b : UInt8) (place : Place) : Splitter :=
  { s with place, field := b :: s.field }

def endField (s : Splitter) : Splitter :=
  { s with place := .fieldStart, field := [], fields := s.field.reverse :: s.fields }

def endRecord (s : Splitter) : Splitter :=
  let fields := (s.field.reverse :: s.fields).reverse
  { place := .recordStart, field := [], fields := [], records := fields :: s.records }

def isQuote (b : UInt8) : Bool := b == 34

def isComma (b : UInt8) : Bool := b == 44

def isLineEnd (b : UInt8) : Bool := b == 10 || b == 13

/-- Takes a byte outside of quotes. -/
def plain (s : Splitter) (b : UInt8) : Splitter :=
  if isComma b then s.endField else if isLineEnd b then s.endRecord else s.keep b .inField

/-- Takes the next byte. -/
def step (s : Splitter) (b : UInt8) : Splitter :=
  match s.place with
  | .recordStart =>
    if isLineEnd b then s else if isQuote b then { s with place := .inQuotes } else s.plain b
  | .fieldStart => if isQuote b then { s with place := .inQuotes } else s.plain b
  | .inField => s.plain b
  | .inQuotes => if isQuote b then { s with place := .afterQuote } else s.keep b .inQuotes
  | .afterQuote => if isQuote b then s.keep b .inQuotes else s.plain b

/-- The records at the end of the text. -/
def finish (s : Splitter) : List RawRecord :=
  match s.place with
  | .recordStart => s.records.reverse
  | _ => s.endRecord.records.reverse

end Splitter

/-- The text without a byte order mark at its start. -/
def dropMark : List UInt8 → List UInt8
  | 0xef :: 0xbb :: 0xbf :: bytes => bytes
  | bytes => bytes

/-- The records of a text. -/
def split (bytes : List UInt8) : List RawRecord :=
  ((dropMark bytes).foldl Splitter.step .start).finish

end CurvePnl.Csv
