import MarketBars.Calendar.Instant

namespace MarketBars

structure SessionTimes where
  opening : TimeOfDay
  closing : TimeOfDay
  deriving DecidableEq

namespace SessionTimes

/-- From half past nine to four o'clock. -/
def usual : SessionTimes :=
  ⟨.ofSecond 34200 (by decide), .ofSecond 57600 (by decide)⟩

def closingOn (s : SessionTimes) (d : Date) : Instant := ⟨d, s.closing⟩

def openingOn (s : SessionTimes) (d : Date) : Instant := ⟨d, s.opening⟩

end SessionTimes

/-- The present instant and the session times. Everything that depends on the present takes the clock as an
argument. -/
structure MarketClock where
  now : Instant
  sessions : SessionTimes
  deriving DecidableEq

namespace MarketClock

def opening (c : MarketClock) : Instant := c.sessions.openingOn c.now.date

def closing (c : MarketClock) : Instant := c.sessions.closingOn c.now.date

/-- The clock some seconds later, when that is in the calendar. -/
def advance? (c : MarketClock) (seconds : Int) : Option MarketClock :=
  (c.now.addSeconds? seconds).map fun now => { c with now }

end MarketClock

end MarketBars
