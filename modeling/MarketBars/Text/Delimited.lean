/-!
# Delimited rows

Rows of fields in a file: a line for each row, a fixed byte between the fields. A field that begins
with a quotation mark ends at the next one and may hold any byte; two of them in a row stand for one.
Empty lines are no rows, and a line ends at a line feed, a carriage return, or both.

Rows are made of bytes, not of characters, so that a file that is no text still has its rows up to the
first field that cannot be read.
-/

namespace MarketBars.Delimited

/-- The fields of a row, as bytes. -/
abbrev Row := List (List UInt8)

/-- Where the next byte stands. -/
inductive Place where
  /-- Before the first field of a row. -/
  | rowStart
  /-- Before the first byte of a later field. -/
  | fieldStart
  /-- In a field without quotation marks around it. -/
  | plain
  /-- Between quotation marks. -/
  | quoted
  /-- After a quotation mark inside quotation marks. -/
  | afterQuote
  deriving DecidableEq, Repr

def quoteMark : UInt8 := 0x22

def endsLine (b : UInt8) : Bool := b == 0x0a || b == 0x0d

/-- What a byte does at its place. -/
inductive Deed where
  /-- The byte belongs to the field. -/
  | keep (next : Place)
  /-- The byte only leads to another place. -/
  | pass (next : Place)
  | endField
  | endRow
  deriving DecidableEq, Repr

/-- What a byte does in or after a field, where quotation marks have no meaning. -/
def deedInside (delimiter b : UInt8) : Deed :=
  if b == delimiter then .endField
  else if endsLine b then .endRow
  else .keep .plain

def deed (delimiter : UInt8) (place : Place) (b : UInt8) : Deed :=
  match place with
  | .rowStart =>
    if endsLine b then .pass .rowStart
    else if b == quoteMark then .pass .quoted
    else deedInside delimiter b
  | .fieldStart => if b == quoteMark then .pass .quoted else deedInside delimiter b
  | .plain => deedInside delimiter b
  | .quoted => if b == quoteMark then .pass .afterQuote else .keep .quoted
  | .afterQuote => if b == quoteMark then .keep .quoted else deedInside delimiter b

/-- Reads on from a place. The field and the row read so far come with their last parts first. -/
def scan (delimiter : UInt8) : Place → List UInt8 → Row → List UInt8 → List Row
  | .rowStart, _, _, [] => []
  | _, field, row, [] => [(field.reverse :: row).reverse]
  | place, field, row, b :: rest =>
    match deed delimiter place b with
    | .keep next => scan delimiter next (b :: field) row rest
    | .pass next => scan delimiter next field row rest
    | .endField => scan delimiter .fieldStart [] (field.reverse :: row) rest
    | .endRow => (field.reverse :: row).reverse :: scan delimiter .rowStart [] [] rest

/-- The bytes after a byte order mark, if there is one. -/
def dropMark : List UInt8 → List UInt8
  | 0xef :: 0xbb :: 0xbf :: rest => rest
  | bytes => bytes

def rows (delimiter : UInt8) (bytes : List UInt8) : List Row :=
  scan delimiter .rowStart [] [] (dropMark bytes)

end MarketBars.Delimited
