import MarketBars.Panel.Cube

/-!
# Histories: the shape of an answer

A request that names a single ticker, a single field or a single date needs no axis for it. The answer
is the cube of the request with those axes collapsed: a cube, one of three frames, one of three series
or a single value.
-/

namespace MarketBars

/-- The axes that a request names by a single label. -/
structure SqueezeFlags where
  date : Bool
  ticker : Bool
  field : Bool
  deriving DecidableEq, Repr

/-- An answer, by the axes that are left. -/
inductive History where
  | scalar (value : Value)
  | byDate (series : Series Instant)
  | byTicker (series : Series Ticker)
  | byField (series : Series String)
  | dateTicker (frame : Frame Instant Ticker)
  | dateField (frame : Frame Instant String)
  | tickerField (frame : Frame Ticker String)
  | cube (cube : Cube)

namespace History

def rank : History → Nat
  | scalar _ => 0
  | byDate _ | byTicker _ | byField _ => 1
  | dateTicker _ | dateField _ | tickerField _ => 2
  | cube _ => 3

/-- The same answer under other field labels; an answer without fields stays as it is. The number of
labels must fit the values. -/
def relabelFields? : History → List String → Option History
  | byField s, fields => (s.relabel? fields).map byField
  | dateField t, fields => (t.relabelColumns? fields).map dateField
  | tickerField t, fields => (t.relabelColumns? fields).map tickerField
  | cube c, fields => (c.relabelFields? fields).map cube
  | scalar v, _ => some (scalar v)
  | byDate s, _ => some (byDate s)
  | byTicker s, _ => some (byTicker s)
  | dateTicker t, _ => some (dateTicker t)

end History

namespace Cube

/-- The value on the last date; there is none when there are no dates. -/
def getLast (c : Cube) (ticker field : Nat) : Value :=
  if c.dates.length = 0 then none else c.get (c.dates.length - 1) ticker field

/-- Collapses the flagged axes: the date axis to its last date, the others to their first label. -/
def squeeze (c : Cube) (flags : SqueezeFlags) : History :=
  match flags.date, flags.ticker, flags.field with
  | true, true, true => .scalar (c.getLast 0 0)
  | true, true, false => .byField (Series.tabulate c.fields fun f => c.getLast 0 f)
  | true, false, true => .byTicker (Series.tabulate c.tickers fun t => c.getLast t 0)
  | true, false, false => .tickerField (Frame.tabulate c.tickers c.fields c.getLast)
  | false, true, true => .byDate (Series.tabulate c.dates fun d => c.get d 0 0)
  | false, true, false => .dateField (Frame.tabulate c.dates c.fields fun d f => c.get d 0 f)
  | false, false, true => .dateTicker (Frame.tabulate c.dates c.tickers fun d t => c.get d t 0)
  | false, false, false => .cube c

/-- Lays the axes out as requested, drops the dates without any value, and collapses the flagged
axes. -/
def normalize (c : Cube) (tickers : List Ticker) (fields : List String) (flags : SqueezeFlags) :
    History :=
  (((c.reindexTickers tickers).reindexFields fields).dropEmptyDates).squeeze flags

theorem rank_squeeze (c : Cube) (flags : SqueezeFlags) :
    (c.squeeze flags).rank =
      3 - (flags.date.toNat + flags.ticker.toNat + flags.field.toNat) := by
  obtain ⟨d, t, f⟩ := flags
  cases d <;> cases t <;> cases f <;> rfl

end Cube

end MarketBars
