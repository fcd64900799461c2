import MarketBars.Archive.Folder
import MarketBars.PriceField
import MarketBars.Table.Basic

/-!
# Loading an instrument

The table of an instrument joins the feature files of its fields along the calendar. Prices and volume
are stored before adjustment, and are divided by the factor of the instrument, if it has one.
-/

namespace MarketBars

/-- The positions of a calendar between two instants, from one position up to another one. -/
def calendarPositions (calendar : Array Instant) (start stop : Instant) (first last : Nat) :
    List Nat :=
  (List.range' first (last - first)).filter fun i =>
    match calendar[i]? with
    | none => false
    | some t => decide (start ≤ t) && decide (t ≤ stop)

namespace FeatureSeries

/-- The value at a position, divided by a factor; there is none where the factor has none. -/
def adjustedAt? (s : FeatureSeries) (factor? : Option FeatureSeries) (position : Nat) :
    Option Binary64 := do
  let raw ← s.at? position
  match factor? with
  | none => pure raw
  | some factor => pure (raw.div (← factor.at? position))

def earliestStart (series : List FeatureSeries) : Nat :=
  (series.map start).min?.getD 0

/-- The last of the positions at which some of the series end, if they all are positions. -/
def latestStop? (series : List FeatureSeries) : Option Nat :=
  (series.mapM stop?).map fun stops => stops.max?.getD 0

end FeatureSeries

namespace Archive

def factorField : String := "factor"

/-- The field is stored before adjustment. -/
def isAdjusted (field : String) : Bool := (PriceField.ofName? field).isSome

def featureFiles (a : Archive) (symbol : String) (fields : List String) (f : Frequency) :
    Except DataError (List (String × Option FeatureSeries)) :=
  fields.mapM fun field => do pure (field, ← a.feature symbol field f)

/-- The fields that have a file, with their values. -/
def found (files : List (String × Option FeatureSeries)) : List (String × FeatureSeries) :=
  files.filterMap fun e => e.2.map fun s => (e.1, s)

def lacking (files : List (String × Option FeatureSeries)) : List String :=
  (files.filter fun e => e.2.isNone).map Prod.fst

def tableAt (calendar : Array Instant) (positions : List Nat)
    (found : List (String × FeatureSeries)) (factor? : Option FeatureSeries) :
    Except DataError Table := do
  let stamps := positions.filterMap fun i => calendar[i]?
  let columns := found.map fun e =>
    (e.1, positions.map (e.2.adjustedAt? (if isAdjusted e.1 then factor? else none)))
  let table ← Table.ofColumns stamps columns
  pure table.dedupFirst

/-- The table of an instrument between two instants, with the requested fields that have no file.
There is none when no field has a file. -/
def load (a : Archive) (symbol : String) (fields : List String) (f : Frequency)
    (calendar : Array Instant) (start stop : Instant) :
    Except Failure (Option (Table × List String)) := do
  let files ← liftError (a.featureFiles symbol fields f)
  let found := found files
  if found.isEmpty then pure none
  else
    let factor? ← liftError (a.feature symbol factorField f)
    let series := found.map Prod.snd
    let last ← Fault.positionRange.orElse (FeatureSeries.latestStop? series)
    let positions := calendarPositions calendar start stop (FeatureSeries.earliestStart series)
      (min last calendar.size)
    let table ← liftError (tableAt calendar positions found factor?)
    pure (some (table, lacking files))

end Archive

end MarketBars
