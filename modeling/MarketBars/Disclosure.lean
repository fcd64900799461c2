import MarketBars.Frequency
import MarketBars.Session

/-!
# Disclosure: which bars may be shown

A bar is shown only when it is complete: a bar of a day or longer once the market has closed on its
day, a shorter bar once its whole length has passed. A request for a stretch of time is cut to the
bars that are complete at the present instant, unless it asks to look ahead.

Bounds are computed by adding days and bars to instants, which can leave the calendar near its ends.
Each such function is optional, and its name ends in a question mark.
-/

namespace MarketBars

namespace Disclosure

/-- The end of the last bar that is complete at the present instant. -/
def lastObservable? (clock : MarketClock) (f : Frequency) : Option Instant :=
  let now := clock.now.dropSeconds
  match f.barSeconds? with
  | some bar => now.addSeconds? (-(bar : Int))
  | none =>
    if clock.sessions.closingOn now.date ≤ now then Instant.endOf? now.date
    else (now.date.addDays? (-1)).bind Instant.endOf?

/-- The start of a request: a whole minute for minute bars, the beginning of the day for others. -/
def adjustStart (start : Instant) (f : Frequency) : Instant :=
  if f.isIntraday then start.dropSeconds else Instant.startOf start.date

/-- The end of a request: a whole minute for minute bars, the last second of the day for others. -/
def normalizeEnd? (stop : Instant) (f : Frequency) : Option Instant :=
  if f.isIntraday then some stop.dropSeconds else Instant.endOf? stop.date

/-- The latest end that shows only complete bars; a request that looks ahead keeps its own. -/
def clamp? (clock : MarketClock) (stop : Instant) (f : Frequency) (lookAhead : Bool) :
    Option Instant := do
  let requested ← normalizeEnd? stop f
  if lookAhead then pure requested
  else pure (Instant.earlier requested (← lastObservable? clock f))

/-- The bounds hold exactly one bar. -/
def coversOneBar? (start stop : Instant) (f : Frequency) : Option Bool :=
  match f.barSeconds? with
  | some bar =>
    if start ≤ stop then do
      let next ← start.addSeconds? bar
      pure (decide (stop < next))
    else some false
  | none => some (decide (start.date = stop.date))

end Disclosure

structure Window where
  start : Instant
  stop : Instant
  /-- The request is for a single bar, so that the answer needs no axis of dates. -/
  singleDate : Bool
  deriving DecidableEq

namespace Window

def isEmpty (w : Window) : Bool := w.stop < w.start

/-- The window of a request. An end that is not given is the present instant. A request for one bar
stays one when its bar may not be shown; a longer one becomes one when a single bar is left of it. -/
def ofRequest? (clock : MarketClock) (start : Instant) (stop? : Option Instant) (f : Frequency)
    (lookAhead : Bool) : Option Window := do
  let start := Disclosure.adjustStart start f
  let requested ← Disclosure.normalizeEnd? (stop?.getD clock.now) f
  let stop ← Disclosure.clamp? clock requested f lookAhead
  let asked ← Disclosure.coversOneBar? start requested f
  let left ← if asked then pure true
    else if start ≤ stop then Disclosure.coversOneBar? start stop f
    else pure false
  pure ⟨start, stop, left⟩

end Window

end MarketBars
