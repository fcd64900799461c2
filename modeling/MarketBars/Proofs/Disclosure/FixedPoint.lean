import MarketBars.Proofs.Disclosure.SingleBar

/-!
# Windows are fixed points

The bounds of a window are in whole bars, wherever the end was cut: an observable instant is a whole minute
for minute bars and the end of a day for others. A request for the bounds of a window therefore has that
window again.
-/

namespace MarketBars

namespace Instant

theorem dropSeconds_of_seconds {t : Instant} (hminute : t.seconds % 60 = 0) (hnano : t.time.nano = 0) :
    t.dropSeconds = t := by
  have hseconds : t.seconds / 60 * 60 = t.seconds := by omega
  apply eq_of_rank_eq
  rw [rank_eq, rank_eq, seconds_dropSeconds, nano_dropSeconds, hseconds, hnano]

theorem startOf_le (t : Instant) : startOf t.date ≤ t := by
  have hday := t.seconds_bounds.1
  have hfraction : (0 : Int) ≤ t.time.nano := by omega
  rw [le_iff, rank_eq, rank_eq, seconds_startOf, nano_startOf]
  simp only [TimeOfDay.secondWidth]
  omega

theorem earlier_of_le {a b : Instant} (h : a ≤ b) : earlier a b = a := if_pos h

end Instant

namespace Disclosure

variable {clock : MarketClock} {f : Frequency} {stop cut requested last : Instant} {lookAhead : Bool}

/-- An end in whole bars: a whole minute for minute bars, the last second of a day for others. -/
def InBars (f : Frequency) (stop : Instant) : Prop := normalizeEnd? stop f = some stop

theorem inBars_of_normalizeEnd? (h : normalizeEnd? stop f = some requested) : InBars f requested :=
  normalizeEnd?_of_normalizeEnd? h

theorem inBars_of_lastObservable? (h : lastObservable? clock f = some last) : InBars f last := by
  cases hf : f.barSeconds? with
  | some bar =>
    -- A bar lasts some whole minutes, so the minute before it is a whole one too.
    have hintraday : f.isIntraday = true := by simp [f.isIntraday_eq_isSome, hf]
    have hbar := (Frequency.barSeconds?_bounds hf).2.2
    simp only [lastObservable?, hf] at h
    obtain ⟨hseconds, hnano⟩ := Instant.of_addSeconds? (Instant.nano_dropSeconds clock.now) h
    rw [Instant.seconds_dropSeconds] at hseconds
    have hminute : last.seconds % 60 = 0 := by omega
    rw [InBars, normalizeEnd?, if_pos hintraday, Instant.dropSeconds_of_seconds hminute hnano]
  | none =>
    have hday : f.isIntraday = false := Frequency.barSeconds?_eq_none_iff.mp hf
    have hends : ∀ d : Date, Instant.endOf? d = some last → InBars f last := by
      intro d hend
      rw [InBars, normalizeEnd?, hday, if_neg Bool.false_ne_true, Instant.date_of_endOf? hend, hend]
    simp only [lastObservable?, hf] at h
    split at h
    · exact hends _ h
    · obtain ⟨d, -, hend⟩ := Option.bind_eq_some_iff.mp h
      exact hends d hend

theorem InBars.earlier {a b : Instant} (ha : InBars f a) (hb : InBars f b) :
    InBars f (Instant.earlier a b) := by
  unfold Instant.earlier
  split
  · exact ha
  · exact hb

theorem inBars_of_clamp? (h : clamp? clock stop f lookAhead = some cut) : InBars f cut := by
  cases lookAhead with
  | true =>
    rw [clamp?_lookAhead] at h
    exact inBars_of_normalizeEnd? h
  | false =>
    obtain ⟨requested, last, hrequested, hlast, rfl⟩ := clamp?_eq_some_iff.mp h
    exact (inBars_of_normalizeEnd? hrequested).earlier (inBars_of_lastObservable? hlast)

/-- An end that was cut is not cut again. -/
theorem clamp?_of_clamp? (h : clamp? clock stop f lookAhead = some cut) :
    clamp? clock cut f lookAhead = some cut := by
  have hbars : normalizeEnd? cut f = some cut := inBars_of_clamp? h
  cases lookAhead with
  | true => rw [clamp?_lookAhead, hbars]
  | false =>
    obtain ⟨requested, last, -, hlast, hcut⟩ := clamp?_eq_some_iff.mp h
    have hle : cut ≤ last := hcut ▸ Instant.earlier_le_right requested last
    exact clamp?_eq_some_iff.mpr ⟨cut, last, hbars, hlast, Instant.earlier_of_le hle⟩

/-- The end of a request is cut to what is observable, or it is kept. -/
theorem clamp?_bounds (h : clamp? clock stop f lookAhead = some cut) :
    ∃ requested, normalizeEnd? stop f = some requested ∧ cut ≤ requested ∧
      if lookAhead then cut = requested
      else ∃ last, lastObservable? clock f = some last ∧ cut ≤ last ∧ (cut = requested ∨ cut = last) := by
  cases lookAhead with
  | true =>
    rw [clamp?_lookAhead] at h
    exact ⟨cut, h, Int.le_refl _, rfl⟩
  | false =>
    obtain ⟨requested, last, hrequested, hlast, rfl⟩ := clamp?_eq_some_iff.mp h
    have hone : Instant.earlier requested last = requested ∨ Instant.earlier requested last = last := by
      unfold Instant.earlier
      split
      · exact Or.inl rfl
      · exact Or.inr rfl
    exact ⟨requested, hrequested, Instant.earlier_le_left _ _, last, hlast, Instant.earlier_le_right _ _,
      hone⟩

theorem adjustStart_adjustStart (start : Instant) (f : Frequency) :
    adjustStart (adjustStart start f) f = adjustStart start f := by
  unfold adjustStart
  split
  · exact Instant.dropSeconds_dropSeconds start
  · rfl

theorem adjustStart_le (start : Instant) (f : Frequency) : adjustStart start f ≤ start := by
  unfold adjustStart
  split
  · exact start.dropSeconds_bounds.1
  · exact start.startOf_le

end Disclosure

namespace Window

variable {clock : MarketClock} {start : Instant} {stop? : Option Instant} {f : Frequency}
  {lookAhead : Bool} {w : Window}

/-- A request for the bounds of a window has a window with these bounds, marked in the same way if there is
anything in it. -/
theorem exists_again (h : ofRequest? clock start stop? f lookAhead = some w) :
    ∃ again, ofRequest? clock w.start (some w.stop) f lookAhead = some again ∧ again.start = w.start ∧
      again.stop = w.stop ∧ (w.isEmpty = false → again.singleDate = w.singleDate) := by
  obtain ⟨hstart, requested, hrequested, hcut⟩ := of_ofRequest? h
  have hstart' : Disclosure.adjustStart w.start f = w.start := by
    rw [hstart, Disclosure.adjustStart_adjustStart]
  have hstop : Disclosure.normalizeEnd? w.stop f = some w.stop := Disclosure.inBars_of_clamp? hcut
  obtain ⟨b, hcovers⟩ : ∃ b, Disclosure.coversOneBar? w.start w.stop f = some b := by
    simp only [ofRequest?, Option.bind_eq_bind, Option.bind_eq_some_iff] at h
    obtain ⟨requested', hrequested', -, -, asked, hasked, -⟩ := h
    cases hrequested.symm.trans hrequested'
    rw [hstart]
    exact Disclosure.exists_coversOneBar? hasked
      (Disclosure.clamp?_le (Disclosure.normalizeEnd?_of_normalizeEnd? hrequested) hcut)
  have hagain : ofRequest? clock w.start (some w.stop) f lookAhead = some ⟨w.start, w.stop, b⟩ := by
    have hkept : ofRequest? clock w.start (some w.stop) f lookAhead =
        some ⟨Disclosure.adjustStart w.start f, w.stop, b⟩ :=
      ofRequest?_of_kept hstop (Disclosure.clamp?_of_clamp? hcut) (hstart'.symm ▸ hcovers)
    rwa [hstart'] at hkept
  refine ⟨_, hagain, rfl, rfl, ?_⟩
  intro hsome
  have hmark := singleDate_iff_of_nonempty h hsome
  have hmark' := singleDate_iff_of_nonempty hagain hsome
  rw [Bool.eq_iff_iff, hmark, hmark']

/-- Windows are fixed points, and so are the bounds that make them. A start moves back at most, and an end
is the one that is asked for or, without looking ahead, the last observable instant if that is earlier. -/
theorem request_again (clock : MarketClock) (f : Frequency) (lookAhead : Bool) :
    (∀ start stop? w, ofRequest? clock start stop? f lookAhead = some w →
      ∃ again, ofRequest? clock w.start (some w.stop) f lookAhead = some again ∧
        again.start = w.start ∧ again.stop = w.stop ∧
        (w.isEmpty = false → again.singleDate = w.singleDate)) ∧
    (∀ start, Disclosure.adjustStart (Disclosure.adjustStart start f) f = Disclosure.adjustStart start f ∧
      Disclosure.adjustStart start f ≤ start) ∧
    (∀ stop requested, Disclosure.normalizeEnd? stop f = some requested →
      Disclosure.normalizeEnd? requested f = some requested) ∧
    ∀ stop cut, Disclosure.clamp? clock stop f lookAhead = some cut →
      Disclosure.clamp? clock cut f lookAhead = some cut ∧
      ∃ requested, Disclosure.normalizeEnd? stop f = some requested ∧ cut ≤ requested ∧
        if lookAhead then cut = requested
        else ∃ last, Disclosure.lastObservable? clock f = some last ∧ cut ≤ last ∧
          (cut = requested ∨ cut = last) := by
  refine ⟨?_, ?_, ?_, ?_⟩
  · intro start stop? w h
    exact exists_again h
  · intro start
    exact ⟨Disclosure.adjustStart_adjustStart start f, Disclosure.adjustStart_le start f⟩
  · intro stop requested h
    exact Disclosure.normalizeEnd?_of_normalizeEnd? h
  · intro stop cut h
    exact ⟨Disclosure.clamp?_of_clamp? h, Disclosure.clamp?_bounds h⟩

/-- Within the minute in which the market closes, the days up to now are the day before, also when they are
asked for by their bounds, and five minutes before now are cut to the same bar however often. -/
theorem request_again_lateClock :
    ofRequest? Disclosure.lateClock Disclosure.lateLast none .daily false =
        some ⟨.startOf .newYear, Disclosure.lateLast, true⟩ ∧
      (∃ again,
        ofRequest? Disclosure.lateClock (.startOf .newYear) (some Disclosure.lateLast) .daily false =
          some again ∧
        again.start = .startOf .newYear ∧ again.stop = Disclosure.lateLast ∧ again.singleDate = true) ∧
      Disclosure.normalizeEnd? Disclosure.lateLast .daily = some Disclosure.lateLast ∧
      Disclosure.clamp? Disclosure.lateClock Disclosure.lateBar .min5 false = some Disclosure.lateBar := by
  have hwindow : ofRequest? Disclosure.lateClock Disclosure.lateLast none .daily false =
      some ⟨.startOf .newYear, Disclosure.lateLast, true⟩ := by decide
  have hend : Disclosure.normalizeEnd? (.startOf .newYear) .daily = some Disclosure.lateLast := by decide
  have hcut : Disclosure.clamp? Disclosure.lateClock Disclosure.lateClock.now .min5 false =
      some Disclosure.lateBar := by decide
  obtain ⟨hagain, -, hends, -⟩ := request_again Disclosure.lateClock .daily false
  obtain ⟨again, hrequest, hstart, hstop, hmark⟩ := hagain _ _ _ hwindow
  exact ⟨hwindow, ⟨again, hrequest, hstart, hstop, hmark (by decide)⟩, hends _ _ hend,
    ((request_again Disclosure.lateClock .min5 false).2.2.2 _ _ hcut).1⟩

end Window

end MarketBars
