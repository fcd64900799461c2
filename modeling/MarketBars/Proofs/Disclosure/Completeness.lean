import MarketBars.Disclosure
import MarketBars.Proofs.Calendar.Order

/-!
# Observable bars are complete bars

A bar is observable when its stamp is not after the end of the last complete bar. For minute bars this
is the case exactly when the whole length of the bar has passed. For bars of a day or longer the close
of the day is compared with the whole minute of the present instant: a bar is observable exactly when
that minute begins at the close or after it, so a close inside a minute is seen when the minute is over.
-/

namespace MarketBars

open TimeOfDay (secondWidth)

namespace Frequency

/-- The bars shorter than a day last some whole minutes, an hour at most. -/
theorem barSeconds?_bounds {f : Frequency} {bar : Nat} (h : f.barSeconds? = some bar) :
    0 < bar ∧ bar ≤ 3600 ∧ bar % 60 = 0 := by
  cases f <;> simp [barSeconds?, barMinutes?] at h <;> omega

end Frequency

namespace Instant

/-- A whole minute: there are no seconds to drop. -/
def IsWholeMinute (t : Instant) : Prop := t.dropSeconds = t

instance (t : Instant) : Decidable t.IsWholeMinute := inferInstanceAs (Decidable (_ = _))

theorem IsWholeMinute.seconds_eq {t : Instant} (h : t.IsWholeMinute) :
    t.seconds % 60 = 0 ∧ t.time.nano = 0 := by
  have hs := seconds_dropSeconds t
  have hn := nano_dropSeconds t
  rw [h] at hs hn
  exact ⟨by omega, hn⟩

end Instant

namespace Disclosure

variable {clock : MarketClock} {f : Frequency} {last : Instant}

/-- For bars of a day or longer, the last complete bar ends with the present date or the one before,
by the whole minute of the present instant. -/
theorem of_lastObservable?_day (hf : f.barSeconds? = none)
    (h : lastObservable? clock f = some last) :
    (clock.closing ≤ clock.now.dropSeconds ∧
        last.rank = (clock.now.date.day * 86400 + 86399) * secondWidth) ∨
      (¬ clock.closing ≤ clock.now.dropSeconds ∧
        last.rank = (clock.now.date.day * 86400 - 1) * secondWidth) := by
  simp only [lastObservable?, hf] at h
  split at h
  · rename_i hc
    obtain ⟨hs, hn⟩ := Instant.of_endOf? h
    refine Or.inl ⟨hc, ?_⟩
    rw [Instant.rank_eq, hs, hn, Instant.date_dropSeconds]
    omega
  · rename_i hc
    obtain ⟨day, hday, hend⟩ := Option.bind_eq_some_iff.mp h
    obtain ⟨hs, hn⟩ := Instant.of_endOf? hend
    have hd := Date.ofDay?_eq_some_iff.mp hday
    refine Or.inr ⟨hc, ?_⟩
    rw [Instant.rank_eq, hs, hn, hd, Instant.date_dropSeconds]
    simp only [secondWidth]
    omega

/-- For minute bars, the last complete bar began its own length before the present minute. -/
theorem of_lastObservable?_minutes {bar : Nat} (hf : f.barSeconds? = some bar)
    (h : lastObservable? clock f = some last) :
    last.rank = clock.now.dropSeconds.rank - bar * secondWidth ∧ last.time.nano = 0 := by
  simp only [lastObservable?, hf] at h
  obtain ⟨hs, hn⟩ := Instant.of_addSeconds? (Instant.nano_dropSeconds clock.now) h
  refine ⟨?_, hn⟩
  rw [Instant.rank_eq, Instant.rank_dropSeconds, hs, hn, Instant.seconds_dropSeconds]
  simp only [secondWidth]
  omega

/-- The bar of a day is observable exactly when the present minute begins at the close of that day or
after it. -/
theorem startOf_le_iff (hf : f.barSeconds? = none) (h : lastObservable? clock f = some last)
    (d : Date) :
    Instant.startOf d ≤ last ↔ clock.sessions.closingOn d ≤ clock.now.dropSeconds := by
  have hclose := clock.sessions.closing.rank_bounds
  have hnow := clock.now.dropSeconds.time.rank_bounds
  have hstart : (Instant.startOf d).rank = d.day * (86400 * secondWidth) := by
    rw [Instant.rank_eq, Instant.seconds_startOf]
    simp only [Instant.startOf, TimeOfDay.midnight, TimeOfDay.ofSecond, secondWidth]
    omega
  have hlast := of_lastObservable?_day hf h
  simp only [Instant.le_iff, MarketClock.closing, SessionTimes.closingOn] at hlast ⊢
  rw [hstart]
  simp only [Instant.rank, Instant.date_dropSeconds, secondWidth] at hlast hclose hnow ⊢
  -- Only the present date is undecided by the dates alone, and there the two sides are one.
  rcases Int.lt_trichotomy d.day clock.now.date.day with hd | hd | hd
  · omega
  · rw [hd] at *
    omega
  · omega

/-- A minute bar is observable exactly when its whole length has passed. -/
theorem le_iff_of_bar {bar : Nat} (hf : f.barSeconds? = some bar)
    (h : lastObservable? clock f = some last) {t done : Instant} (ht : t.IsWholeMinute)
    (hdone : t.addSeconds? bar = some done) : t ≤ last ↔ done ≤ clock.now := by
  obtain ⟨-, -, hbar⟩ := Frequency.barSeconds?_bounds hf
  obtain ⟨hminute, hnano⟩ := ht.seconds_eq
  obtain ⟨hseconds, hnano'⟩ := Instant.of_addSeconds? hnano hdone
  obtain ⟨hle, hlt⟩ := clock.now.dropSeconds_bounds
  obtain ⟨hlast, -⟩ := of_lastObservable?_minutes hf h
  rw [Instant.rank_dropSeconds] at hle hlt hlast
  rw [Instant.le_iff, Instant.le_iff, Instant.rank_eq t, Instant.rank_eq done, hlast, hnano, hnano',
    hseconds]
  -- Both the end of the bar and the present minute are whole minutes.
  simp only [secondWidth] at *
  omega

/-- The market has closed on a date within the present minute, after it began. -/
def ClosedThisMinute (clock : MarketClock) (d : Date) : Prop :=
  clock.now.dropSeconds < clock.sessions.closingOn d ∧ clock.sessions.closingOn d ≤ clock.now

instance (clock : MarketClock) (d : Date) : Decidable (ClosedThisMinute clock d) :=
  inferInstanceAs (Decidable (_ ∧ _))

/-- The market closes half a minute past three, and the clock shows three quarters of a minute past
three on the second of January 2025. -/
def lateClock : MarketClock where
  now := ⟨.afterNewYear, .ofSecond 54045 (by decide)⟩
  sessions := ⟨SessionTimes.usual.opening, .ofSecond 54030 (by decide)⟩

/-- The last second of the first of January 2025. -/
def lateLast : Instant := ⟨.newYear, .lastSecond⟩

/-- Five minutes to three of the second of January 2025, when the last complete bar of five minutes
begins. -/
def lateBar : Instant := ⟨.afterNewYear, .ofSecond 53700 (by decide)⟩

/-- A bar of a day is not observable at every instant after the close of its day. -/
theorem closed_day_withheld :
    ¬ ∀ (clock : MarketClock) (f : Frequency) (last : Instant),
      lastObservable? clock f = some last → f.barSeconds? = none →
        ∀ d : Date, Instant.startOf d ≤ last ↔ clock.sessions.closingOn d ≤ clock.now := by
  intro h
  have hd := h lateClock .daily lateLast (by decide) rfl lateClock.now.date
  exact absurd (hd.mpr (by decide)) (by decide)

/-- A minute bar is observable exactly when it is complete. A bar of a day or longer is observable
exactly when the market has closed on its date, but for the rest of the minute in which it closes. -/
theorem observable_iff_complete (h : lastObservable? clock f = some last) :
    (∀ bar, f.barSeconds? = some bar → ∀ t done : Instant, t.IsWholeMinute →
      t.addSeconds? bar = some done → (t ≤ last ↔ done ≤ clock.now)) ∧
    (f.barSeconds? = none → ∀ d : Date,
      (Instant.startOf d ≤ last ↔ clock.sessions.closingOn d ≤ clock.now) ↔
        ¬ ClosedThisMinute clock d) := by
  constructor
  · intro bar hf t done ht hdone
    exact le_iff_of_bar hf h ht hdone
  · intro hf d
    have hle := clock.now.dropSeconds_bounds.1
    rw [startOf_le_iff hf h d]
    simp only [ClosedThisMinute, Instant.le_iff, Instant.lt_iff]
    omega

/-- At three quarters of a minute past three the day that closed within the minute is withheld, the day
before is shown, and so is the bar of the five minutes up to three. -/
theorem observable_iff_complete_lateClock :
    lastObservable? lateClock .daily = some lateLast ∧
      ¬ (Instant.startOf lateClock.now.date ≤ lateLast ↔ lateClock.closing ≤ lateClock.now) ∧
      (Instant.startOf lateLast.date ≤ lateLast ↔
        lateClock.sessions.closingOn lateLast.date ≤ lateClock.now) ∧
      lastObservable? lateClock .min5 = some lateBar ∧
      (lateBar ≤ lateBar ↔ lateClock.now.dropSeconds ≤ lateClock.now) := by
  have hlast : lastObservable? lateClock .daily = some lateLast := by decide
  have hbar : lastObservable? lateClock .min5 = some lateBar := by decide
  have hdone : lateBar.addSeconds? 300 = some lateClock.now.dropSeconds := by decide
  have hday := (observable_iff_complete hlast).2 rfl
  refine ⟨hlast, ?_, ?_, hbar, ?_⟩
  · intro h
    exact (hday lateClock.now.date).mp h (by decide)
  · exact (hday lateLast.date).mpr (by decide)
  · exact (observable_iff_complete hbar).1 300 rfl lateBar _ rfl hdone

end Disclosure

end MarketBars
