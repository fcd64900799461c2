import MarketBars.Proofs.Disclosure.Completeness

namespace MarketBars

namespace Disclosure

theorem nano_of_normalizeEnd? {stop requested : Instant} {f : Frequency}
    (h : normalizeEnd? stop f = some requested) : requested.time.nano = 0 := by
  unfold normalizeEnd? at h
  split at h
  · cases h
    exact Instant.nano_dropSeconds stop
  · exact (Instant.of_endOf? h).2

theorem nano_of_lastObservable? {clock : MarketClock} {f : Frequency} {last : Instant}
    (h : lastObservable? clock f = some last) : last.time.nano = 0 := by
  cases hf : f.barSeconds? with
  | some bar => exact (of_lastObservable?_minutes hf h).2
  | none =>
    simp only [lastObservable?, hf] at h
    split at h
    · exact (Instant.of_endOf? h).2
    · obtain ⟨day, -, hend⟩ := Option.bind_eq_some_iff.mp h
      exact (Instant.of_endOf? hend).2

section Clamp

variable {clock : MarketClock} {stop cut : Instant} {f : Frequency} {lookAhead : Bool}

theorem clamp?_lookAhead (clock : MarketClock) (stop : Instant) (f : Frequency) :
    clamp? clock stop f true = normalizeEnd? stop f := by
  simp [clamp?]

theorem clamp?_eq_some_iff : clamp? clock stop f false = some cut ↔
    ∃ requested last, normalizeEnd? stop f = some requested ∧ lastObservable? clock f = some last ∧
      Instant.earlier requested last = cut := by
  simp [clamp?, Option.bind_eq_some_iff]

theorem millis_clamp?_le (h : clamp? clock stop f false = some cut) :
    ∃ last, lastObservable? clock f = some last ∧ cut.millis ≤ last.millis := by
  obtain ⟨requested, last, hrequested, hlast, rfl⟩ := clamp?_eq_some_iff.mp h
  refine ⟨last, hlast, ?_⟩
  unfold Instant.earlier
  split
  · rename_i hle
    exact Instant.millis_le_of_le (nano_of_normalizeEnd? hrequested) hle
  · exact Int.le_refl _

theorem nano_of_clamp? (h : clamp? clock stop f lookAhead = some cut) : cut.time.nano = 0 := by
  cases lookAhead with
  | true =>
    rw [clamp?_lookAhead] at h
    exact nano_of_normalizeEnd? h
  | false =>
    obtain ⟨requested, last, hrequested, hlast, rfl⟩ := clamp?_eq_some_iff.mp h
    unfold Instant.earlier
    split
    · exact nano_of_normalizeEnd? hrequested
    · exact nano_of_lastObservable? hlast

end Clamp

theorem nano_adjustStart (start : Instant) (f : Frequency) : (adjustStart start f).time.nano = 0 := by
  unfold adjustStart
  split <;> rfl

end Disclosure

/-- The bounds of a window are those of the request, the end cut to what is observable. -/
theorem Window.of_ofRequest? {clock : MarketClock} {start : Instant} {stop? : Option Instant}
    {f : Frequency} {lookAhead : Bool} {window : Window}
    (h : Window.ofRequest? clock start stop? f lookAhead = some window) :
    window.start = Disclosure.adjustStart start f ∧
      ∃ requested, Disclosure.normalizeEnd? (stop?.getD clock.now) f = some requested ∧
        Disclosure.clamp? clock requested f lookAhead = some window.stop := by
  simp only [Window.ofRequest?, Option.bind_eq_bind, Option.bind_eq_some_iff] at h
  obtain ⟨requested, hrequested, stop, hstop, asked, -, hwindow⟩ := h
  have hbounds : window.start = Disclosure.adjustStart start f ∧ window.stop = stop := by
    split at hwindow
    · cases hwindow
      exact ⟨rfl, rfl⟩
    · split at hwindow
      · obtain ⟨left, -, hleft⟩ := Option.bind_eq_some_iff.mp hwindow
        cases hleft
        exact ⟨rfl, rfl⟩
      · cases hwindow
        exact ⟨rfl, rfl⟩
  exact ⟨hbounds.1, requested, hrequested, hbounds.2 ▸ hstop⟩

/-- The bounds of a window have no fractions. -/
theorem Window.nano_bounds {clock : MarketClock} {start : Instant} {stop? : Option Instant}
    {f : Frequency} {lookAhead : Bool} {window : Window}
    (h : Window.ofRequest? clock start stop? f lookAhead = some window) :
    window.start.time.nano = 0 ∧ window.stop.time.nano = 0 := by
  obtain ⟨hstart, requested, -, hstop⟩ := Window.of_ofRequest? h
  exact ⟨hstart ▸ Disclosure.nano_adjustStart start f, Disclosure.nano_of_clamp? hstop⟩

/-- The window of a request that does not look ahead ends by the last observable instant. -/
theorem Window.millis_stop_le {clock : MarketClock} {start : Instant} {stop? : Option Instant}
    {f : Frequency} {window : Window} (h : Window.ofRequest? clock start stop? f false = some window) :
    ∃ last, Disclosure.lastObservable? clock f = some last ∧
      window.stop.millis ≤ last.millis := by
  obtain ⟨-, requested, -, hstop⟩ := Window.of_ofRequest? h
  exact Disclosure.millis_clamp?_le hstop

/-- The beginning of a day is inside the window of a request for it. -/
theorem Window.exists_ofDay (clock : MarketClock) (f : Frequency) {d : Date} (h : d.day < lastDay) :
    ∃ window, Window.ofRequest? clock (.startOf d) (some (.startOf d)) f true = some window ∧
      window.singleDate = true ∧ window.start = .startOf d ∧ Instant.startOf d ≤ window.stop := by
  have hstart : Disclosure.adjustStart (.startOf d) f = .startOf d := by
    unfold Disclosure.adjustStart
    split
    · exact Instant.dropSeconds_startOf d
    · rfl
  -- A minute bar ends the window where it begins, a longer one with its day.
  cases hintraday : f.isIntraday with
  | true =>
    have hend : Disclosure.normalizeEnd? (.startOf d) f = some (.startOf d) := by
      rw [Disclosure.normalizeEnd?, hintraday, if_pos rfl, Instant.dropSeconds_startOf]
    rw [f.isIntraday_eq_isSome] at hintraday
    obtain ⟨bar, hbar⟩ := Option.isSome_iff_exists.mp hintraday
    have hcovers : Disclosure.coversOneBar? (.startOf d) (.startOf d) f = some true := by
      have hbounds := Frequency.barSeconds?_bounds hbar
      have hfirst := d.first_le
      have hseconds := Instant.seconds_startOf d
      obtain ⟨next, hnext, hs, -⟩ := @Instant.exists_addSeconds? (.startOf d) bar rfl
        (by omega) (by omega)
      have hlt : Instant.startOf d < next := by
        rw [Instant.lt_iff, Instant.rank_eq, Instant.rank_eq, hs, Instant.nano_startOf]
        simp only [TimeOfDay.secondWidth]
        omega
      have hle : Instant.startOf d ≤ .startOf d := Int.le_refl _
      rw [Disclosure.coversOneBar?, hbar]
      dsimp only
      rw [if_pos hle, hnext]
      exact congrArg some (decide_eq_true hlt)
    refine ⟨⟨.startOf d, .startOf d, true⟩, ?_, rfl, rfl, Int.le_refl _⟩
    simp only [ofRequest?, hstart, Option.getD_some, hend, Disclosure.clamp?, hcovers, if_true,
      Option.bind_eq_bind, Option.bind_some, Option.pure_def]
  | false =>
    obtain ⟨last, hlast⟩ := Instant.exists_endOf? h
    obtain ⟨hseconds, hnano⟩ := Instant.of_endOf? hlast
    have hdate := Instant.date_of_endOf? hlast
    have hend : ∀ t : Instant, t.date = d → Disclosure.normalizeEnd? t f = some last := by
      intro t ht
      rw [Disclosure.normalizeEnd?, hintraday, if_neg Bool.false_ne_true, ht, hlast]
    have hcovers : Disclosure.coversOneBar? (.startOf d) last f = some true := by
      have hnone : f.barSeconds? = none := by
        rw [f.isIntraday_eq_isSome] at hintraday
        simpa using hintraday
      have hsame : (Instant.startOf d).date = last.date := hdate.symm
      rw [Disclosure.coversOneBar?, hnone]
      exact congrArg some (decide_eq_true hsame)
    refine ⟨⟨.startOf d, last, true⟩, ?_, rfl, rfl, ?_⟩
    · have hend' := hend (.startOf d) rfl
      simp only [ofRequest?, hstart, Option.getD_some, hend', hend last hdate, Disclosure.clamp?,
        hcovers, if_true, Option.bind_eq_bind, Option.bind_some, Option.pure_def]
    · rw [Instant.le_iff, Instant.rank_eq, Instant.rank_eq, hseconds, hnano, Instant.seconds_startOf,
        Instant.nano_startOf]
      simp only [TimeOfDay.secondWidth]
      omega

end MarketBars
