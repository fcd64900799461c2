import MarketBars.Proofs.Disclosure.SingleBar

/-!
# Windows at the ends of the calendar

The bounds of a window are computed by way of other instants: the end of a day from the beginning of the next
one, the end of a minute bar from the beginning of the next one, and the last observable instant by going back
a bar or a day. Two days inside the calendar there is always a way back. There is not always a way forward:
the last day of the calendar has a last second, but no next day, and the last bar of that day has no next bar.
A request for days that ends there has no window, nor has one for minutes that begins there, although the
bounds that they ask for are instants of the calendar.
-/

namespace MarketBars

theorem firstDay_le_lastDay : firstDay ≤ lastDay := by decide

def Date.last : Date := ⟨lastDay, firstDay_le_lastDay, Int.le_refl lastDay⟩

namespace Instant

variable {t e : Instant} {n : Int} {d : Date}

/-- An instant without a fraction moves as far as the calendar goes, and no further. -/
theorem exists_addSeconds?_iff (ht : t.time.nano = 0) :
    (∃ u, t.addSeconds? n = some u) ↔
      firstDay * 86400 ≤ t.seconds + n ∧ t.seconds + n < (lastDay + 1) * 86400 := by
  constructor
  · rintro ⟨u, hu⟩
    have hseconds := (of_addSeconds? ht hu).1
    have hbounds := u.seconds_bounds
    have hfirst := u.date.first_le
    have hlast := u.date.le_last
    omega
  · rintro ⟨hfirst, hlast⟩
    obtain ⟨u, hu, -⟩ := exists_addSeconds? ht hfirst hlast
    exact ⟨u, hu⟩

/-- The end of a day is its last second, which is reached if there is a next day. -/
theorem endOf?_eq_some_iff : endOf? d = some e ↔ d.day < lastDay ∧ e = ⟨d, .lastSecond⟩ := by
  have hlastSecond : ∀ {u}, endOf? d = some u → u = ⟨d, .lastSecond⟩ := by
    intro u hu
    obtain ⟨hseconds, hnano⟩ := of_endOf? hu
    apply eq_of_rank_eq
    rw [rank_eq, rank_eq, hseconds, hnano]
    rfl
  constructor
  · intro he
    refine ⟨?_, hlastSecond he⟩
    simp only [endOf?, Option.bind_eq_bind, Option.bind_eq_some_iff] at he
    obtain ⟨next, hnext, -⟩ := he
    have hlast := ((exists_addSeconds?_iff rfl).mp ⟨next, hnext⟩).2
    rw [seconds_startOf] at hlast
    omega
  · rintro ⟨hlast, rfl⟩
    obtain ⟨u, hu⟩ := exists_endOf? hlast
    rw [hu, hlastSecond hu]

/-- The day before a day has an end whenever it is in the calendar. -/
theorem exists_endOf?_before_iff :
    (∃ e, (d.addDays? (-1)).bind endOf? = some e) ↔ firstDay < d.day := by
  constructor
  · rintro ⟨e, he⟩
    obtain ⟨before, hbefore, -⟩ := Option.bind_eq_some_iff.mp he
    have hday := Date.ofDay?_eq_some_iff.mp hbefore
    have hfirst := before.first_le
    omega
  · intro hafter
    have hlast := d.le_last
    obtain ⟨before, hbefore⟩ : ∃ before, d.addDays? (-1) = some before :=
      ⟨⟨d.day + -1, by omega, by omega⟩, Date.ofDay?_eq_some_iff.mpr rfl⟩
    have hday := Date.ofDay?_eq_some_iff.mp hbefore
    obtain ⟨e, he⟩ : ∃ e, endOf? before = some e := exists_endOf? (by omega)
    exact ⟨e, Option.bind_eq_some_iff.mpr ⟨before, hbefore, he⟩⟩

/-- An instant is two days or more from either end of the calendar. -/
def TwoDaysInside (t : Instant) : Prop :=
  firstDay + 2 ≤ t.date.day ∧ t.date.day + 2 ≤ lastDay

instance (t : Instant) : Decidable t.TwoDaysInside := inferInstanceAs (Decidable (_ ∧ _))

end Instant

namespace Frequency

/-- The end of a request in whole bars: a whole minute for minute bars, the last second of its day for
others. -/
def wholeEnd (f : Frequency) (stop : Instant) : Instant :=
  if f.isIntraday then stop.dropSeconds else ⟨stop.date, .lastSecond⟩

/-- There is a day after the end of a request, or its bars are minute bars, for which none is needed. -/
def HasNextDay (f : Frequency) (stop : Instant) : Prop :=
  f.isIntraday = true ∨ stop.date.day < lastDay

/-- There is a second after the first bar of a request. None is needed if the request ends before that bar
begins, or for bars of a day or longer. -/
def HasNextBar (f : Frequency) (start stop : Instant) : Prop :=
  ∀ bar, f.barSeconds? = some bar → start.dropSeconds ≤ stop.dropSeconds →
    start.dropSeconds.seconds + bar < (lastDay + 1) * 86400

end Frequency

namespace Disclosure

variable {clock : MarketClock} {f : Frequency} {start stop requested : Instant} {lookAhead : Bool}

theorem normalizeEnd?_eq_some_iff :
    normalizeEnd? stop f = some requested ↔ f.HasNextDay stop ∧ requested = f.wholeEnd stop := by
  unfold normalizeEnd? Frequency.HasNextDay Frequency.wholeEnd
  cases f.isIntraday with
  | true => simp [eq_comm]
  | false => simpa using Instant.endOf?_eq_some_iff

/-- Going back a bar, or from a day that has not closed to the one before, may leave the calendar at its
beginning. A day that has closed is the last observable one if there is a day after it. -/
theorem exists_lastObservable?_iff :
    (∃ last, lastObservable? clock f = some last) ↔
      match f.barSeconds? with
      | some bar => firstDay * 86400 + bar ≤ clock.now.dropSeconds.seconds
      | none =>
        if clock.closing ≤ clock.now.dropSeconds then clock.now.date.day < lastDay
        else firstDay < clock.now.date.day := by
  cases hf : f.barSeconds? with
  | some bar =>
    have hlast := clock.now.date.le_last
    have hbounds := clock.now.dropSeconds.seconds_bounds
    have hbar := (Frequency.barSeconds?_bounds hf).1
    simp only [lastObservable?, hf, Instant.date_dropSeconds] at hbounds ⊢
    rw [Instant.exists_addSeconds?_iff (Instant.nano_dropSeconds _)]
    omega
  | none =>
    simp only [lastObservable?, hf, MarketClock.closing, Instant.date_dropSeconds]
    by_cases hclosed : clock.sessions.closingOn clock.now.date ≤ clock.now.dropSeconds
    · simp [hclosed, Instant.endOf?_eq_some_iff]
    · simp only [hclosed, if_false, Instant.exists_endOf?_before_iff]

theorem exists_lastObservable? (h : clock.now.TwoDaysInside) :
    ∃ last, lastObservable? clock f = some last := by
  obtain ⟨hfirst, hlast⟩ := h
  rw [exists_lastObservable?_iff]
  cases hf : f.barSeconds? with
  | some bar =>
    have hbounds := clock.now.dropSeconds.seconds_bounds
    have hbar := (Frequency.barSeconds?_bounds hf).2.1
    simp only [Instant.date_dropSeconds] at hbounds ⊢
    omega
  | none =>
    dsimp only
    split <;> omega

theorem exists_clamp?_iff :
    (∃ cut, clamp? clock stop f lookAhead = some cut) ↔
      f.HasNextDay stop ∧ (lookAhead = false → ∃ last, lastObservable? clock f = some last) := by
  cases lookAhead with
  | true => simp [clamp?_lookAhead, normalizeEnd?_eq_some_iff]
  | false =>
    constructor
    · rintro ⟨cut, hcut⟩
      obtain ⟨requested, last, hrequested, hlast, -⟩ := clamp?_eq_some_iff.mp hcut
      exact ⟨(normalizeEnd?_eq_some_iff.mp hrequested).1, fun _ => ⟨last, hlast⟩⟩
    · rintro ⟨hday, hlast⟩
      obtain ⟨last, hlast⟩ := hlast rfl
      exact ⟨_, clamp?_eq_some_iff.mpr ⟨_, last, normalizeEnd?_eq_some_iff.mpr ⟨hday, rfl⟩, hlast, rfl⟩⟩

theorem date_adjustStart (f : Frequency) (start : Instant) : (adjustStart start f).date = start.date := by
  unfold adjustStart
  split <;> rfl

theorem exists_coversOneBar?_iff (hrequested : normalizeEnd? stop f = some requested) :
    (∃ b, coversOneBar? (adjustStart start f) requested f = some b) ↔ f.HasNextBar start stop := by
  cases hf : f.barSeconds? with
  | some bar =>
    have hintraday : f.isIntraday = true := by simp [f.isIntraday_eq_isSome, hf]
    have hfirst := start.date.first_le
    have hbounds := start.dropSeconds.seconds_bounds
    have hbar := (Frequency.barSeconds?_bounds hf).1
    -- A bar that begins in the calendar leaves it at the end or not at all.
    have hnext : (∃ next, start.dropSeconds.addSeconds? bar = some next) ↔
        start.dropSeconds.seconds + bar < (lastDay + 1) * 86400 := by
      rw [Instant.date_dropSeconds] at hbounds
      rw [Instant.exists_addSeconds?_iff (Instant.nano_dropSeconds _)]
      omega
    rw [normalizeEnd?, if_pos hintraday] at hrequested
    cases hrequested
    simp only [coversOneBar?, adjustStart, hintraday, if_true, hf, Frequency.HasNextBar,
      Option.some.injEq, forall_eq', ← hnext]
    by_cases hle : start.dropSeconds ≤ stop.dropSeconds
    · simp only [hle, if_true, true_implies, Option.bind_eq_bind, Option.bind_eq_some_iff]
      constructor
      · rintro ⟨b, next, hadd, -⟩
        exact ⟨next, hadd⟩
      · rintro ⟨next, hadd⟩
        exact ⟨_, next, hadd, rfl⟩
    · simp [hle]
  | none => simp [coversOneBar?, Frequency.HasNextBar, hf]

end Disclosure

namespace Window

variable {clock : MarketClock} {f : Frequency} {start : Instant} {stop? : Option Instant} {lookAhead : Bool}

/-- A request has a window when there is a way to its end, to the end of its first bar and, if it does not look
ahead, to what is observable. What is left of it after the cut needs no other bar. -/
theorem exists_ofRequest?_iff :
    (∃ w, ofRequest? clock start stop? f lookAhead = some w) ↔
      f.HasNextDay (stop?.getD clock.now) ∧ f.HasNextBar start (stop?.getD clock.now) ∧
        (lookAhead = false → ∃ last, Disclosure.lastObservable? clock f = some last) := by
  constructor
  · rintro ⟨w, h⟩
    simp only [ofRequest?, Option.bind_eq_bind, Option.bind_eq_some_iff] at h
    obtain ⟨requested, hrequested, cut, hcut, asked, hasked, -⟩ := h
    exact ⟨(Disclosure.normalizeEnd?_eq_some_iff.mp hrequested).1,
      (Disclosure.exists_coversOneBar?_iff hrequested).mp ⟨asked, hasked⟩,
      (Disclosure.exists_clamp?_iff.mp ⟨cut, hcut⟩).2⟩
  · rintro ⟨hday, hbar, hlast⟩
    have hrequested := Disclosure.normalizeEnd?_eq_some_iff.mpr ⟨hday, rfl⟩
    -- The end is put into whole bars once more before it is cut, which changes nothing.
    have hagain := Disclosure.normalizeEnd?_of_normalizeEnd? hrequested
    obtain ⟨cut, hcut⟩ := Disclosure.exists_clamp?_iff.mpr
      ⟨(Disclosure.normalizeEnd?_eq_some_iff.mp hagain).1, hlast⟩
    obtain ⟨asked, hasked⟩ := (Disclosure.exists_coversOneBar?_iff hrequested).mpr hbar
    obtain ⟨left, hleft⟩ := Disclosure.exists_coversOneBar? hasked (Disclosure.clamp?_le hagain hcut)
    simp only [ofRequest?, hrequested, hcut, hasked, hleft, Option.bind_eq_bind, Option.bind_some]
    cases asked with
    | true => exact ⟨_, rfl⟩
    | false =>
      by_cases hle : Disclosure.adjustStart start f ≤ cut
      · simp [hle]
      · simp [hle]

/-- Four o'clock on the second of January 2025, when the market closes. -/
def closingClock : MarketClock := ⟨⟨.afterNewYear, SessionTimes.usual.closing⟩, .usual⟩

/-- The beginning of the last minute of the calendar. -/
def lastMinute : Instant := ⟨.last, .ofSecond 86340 (by decide)⟩

/-- The last day of the calendar has a last second, but a request for days up to it has no end and no window, nor
has a request for the last minute. -/
theorem last_day_not_reached :
    closingClock.now.TwoDaysInside ∧
      Frequency.daily.wholeEnd (.startOf .last) = ⟨.last, .lastSecond⟩ ∧
      Disclosure.normalizeEnd? (.startOf .last) .daily = none ∧
      Disclosure.clamp? closingClock (.startOf .last) .daily false = none ∧
      ofRequest? closingClock (.startOf .newYear) (some (.startOf .last)) .daily false = none ∧
      ofRequest? closingClock lastMinute (some lastMinute) .min1 false = none := by
  decide

/-- For a clock two days inside the calendar there is a last observable instant, whatever the session times
are. The end of a request is found, and cut, exactly when it is for minute bars or there is a day after it, and
it is the end in whole bars then. The request has a window exactly when, besides, its first bar is over within
the calendar, if it is for minute bars and does not end before that bar begins. The start of a request stays on
its day. -/
theorem bounds_reached_iff (h : clock.now.TwoDaysInside) (f : Frequency) :
    (∃ last, Disclosure.lastObservable? clock f = some last) ∧
    (∀ stop requested, Disclosure.normalizeEnd? stop f = some requested ↔
      f.HasNextDay stop ∧ requested = f.wholeEnd stop) ∧
    (∀ stop lookAhead, (∃ cut, Disclosure.clamp? clock stop f lookAhead = some cut) ↔ f.HasNextDay stop) ∧
    (∀ start, (Disclosure.adjustStart start f).date = start.date) ∧
    ∀ start stop? lookAhead, (∃ w, ofRequest? clock start stop? f lookAhead = some w) ↔
      f.HasNextDay (stop?.getD clock.now) ∧ f.HasNextBar start (stop?.getD clock.now) := by
  have hlast := Disclosure.exists_lastObservable? (f := f) h
  refine ⟨hlast, fun _ _ => Disclosure.normalizeEnd?_eq_some_iff, ?_, Disclosure.date_adjustStart f, ?_⟩
  · intro stop lookAhead
    simp [Disclosure.exists_clamp?_iff, hlast]
  · intro start stop? lookAhead
    simp [exists_ofRequest?_iff, hlast]

/-- The clock at the beginning of the third day of the calendar. -/
def thirdDay : MarketClock := ⟨.startOf ⟨firstDay + 2, by decide, by decide⟩, .usual⟩

/-- At the beginning of the third day of the calendar there is an observable day. An end on the last day is cut
for minute bars and not for days, and a window begins in the last minute only if it ends before. -/
theorem bounds_reached_iff_thirdDay :
    thirdDay.now.TwoDaysInside ∧
      (∃ last, Disclosure.lastObservable? thirdDay .daily = some last) ∧
      (¬ ∃ cut, Disclosure.clamp? thirdDay lastMinute .daily false = some cut) ∧
      (∃ cut, Disclosure.clamp? thirdDay lastMinute .min1 false = some cut) ∧
      (∃ w, ofRequest? thirdDay lastMinute (some (.startOf .last)) .min1 false = some w) ∧
      ¬ ∃ w, ofRequest? thirdDay lastMinute (some lastMinute) .min1 false = some w := by
  have hinside : thirdDay.now.TwoDaysInside := by decide
  obtain ⟨hlast, -, hdays, -⟩ := bounds_reached_iff hinside .daily
  obtain ⟨-, -, hminutes, -, hwindow⟩ := bounds_reached_iff hinside .min1
  refine ⟨hinside, hlast, ?_, (hminutes _ _).mpr (.inl rfl), (hwindow _ _ _).mpr ⟨.inl rfl, ?_⟩, ?_⟩
  · rw [hdays]
    rintro (hintraday | hnext)
    · cases hintraday
    · exact absurd hnext (by decide)
  · intro bar _ hle
    exact absurd hle (by decide)
  · rw [hwindow]
    rintro ⟨-, hnext⟩
    exact absurd (hnext 60 rfl (by decide)) (by decide)

end Window

end MarketBars
