import MarketBars.Proofs.Calendar.Millis
import MarketBars.Proofs.Disclosure.Cut

namespace MarketBars

open TimeOfDay (secondWidth)

namespace Instant

theorem seconds_mono {a b : Instant} (h : a ≤ b) : a.seconds ≤ b.seconds := by
  have ha := a.time.nano_lt
  have hb := b.time.nano_lt
  rw [le_iff, rank_eq, rank_eq] at h
  simp only [secondWidth] at h
  omega

theorem day_mono {a b : Instant} (h : a ≤ b) : a.date.day ≤ b.date.day := by
  have hseconds := seconds_mono h
  have ha := a.seconds_bounds
  have hb := b.seconds_bounds
  omega

theorem dropSeconds_mono {a b : Instant} (h : a ≤ b) : a.dropSeconds ≤ b.dropSeconds := by
  have hseconds := seconds_mono h
  rw [le_iff, rank_dropSeconds, rank_dropSeconds]
  simp only [secondWidth]
  omega

theorem dropSeconds_dropSeconds (t : Instant) : t.dropSeconds.dropSeconds = t.dropSeconds := by
  have hminute : t.seconds / 60 * 60 / 60 * 60 = t.seconds / 60 * 60 := by omega
  apply eq_of_rank_eq
  rw [rank_dropSeconds, rank_dropSeconds, seconds_dropSeconds, hminute]

theorem le_earlier {a b c : Instant} (hb : a ≤ b) (hc : a ≤ c) : a ≤ earlier b c := by
  unfold earlier
  split
  · exact hb
  · exact hc

end Instant

namespace Disclosure

variable {sessions : SessionTimes} {now₁ now₂ : Instant} {f : Frequency}

/-- The last observable instant moves forward with the clock. -/
theorem lastObservable?_mono (hnow : now₁ ≤ now₂) {last₁ last₂ : Instant}
    (h₁ : lastObservable? ⟨now₁, sessions⟩ f = some last₁)
    (h₂ : lastObservable? ⟨now₂, sessions⟩ f = some last₂) : last₁ ≤ last₂ := by
  have hminute := Instant.dropSeconds_mono hnow
  rw [Instant.le_iff] at hminute ⊢
  cases hf : f.barSeconds? with
  | some bar =>
    have hrank₁ := (of_lastObservable?_minutes hf h₁).1
    have hrank₂ := (of_lastObservable?_minutes hf h₂).1
    dsimp only at hrank₁ hrank₂
    omega
  | none =>
    have hday := Instant.day_mono hnow
    have hlast₁ := of_lastObservable?_day hf h₁
    have hlast₂ := of_lastObservable?_day hf h₂
    simp only [MarketClock.closing, SessionTimes.closingOn, Instant.le_iff, secondWidth] at hlast₁ hlast₂
    by_cases hsame : now₁.date = now₂.date
    · -- On one day, a market that has closed stays closed.
      rw [hsame] at hlast₁
      omega
    · -- The end of an earlier day comes before the beginning of a later one.
      have hne : now₁.date.day ≠ now₂.date.day := fun h => hsame (Date.eq_of_day_eq h)
      omega

theorem normalizeEnd?_mono {stop₁ stop₂ requested₁ requested₂ : Instant} (hstop : stop₁ ≤ stop₂)
    (h₁ : normalizeEnd? stop₁ f = some requested₁) (h₂ : normalizeEnd? stop₂ f = some requested₂) :
    requested₁ ≤ requested₂ := by
  unfold normalizeEnd? at h₁ h₂
  split at h₁
  · rename_i hintraday
    rw [if_pos hintraday] at h₂
    cases h₁
    cases h₂
    exact Instant.dropSeconds_mono hstop
  · rename_i hintraday
    rw [if_neg hintraday] at h₂
    have hday := Instant.day_mono hstop
    obtain ⟨hs₁, hn₁⟩ := Instant.of_endOf? h₁
    obtain ⟨hs₂, hn₂⟩ := Instant.of_endOf? h₂
    rw [Instant.le_iff, Instant.rank_eq, Instant.rank_eq, hs₁, hs₂, hn₁, hn₂]
    simp only [secondWidth]
    omega

/-- An end in whole bars stays as it is. -/
theorem normalizeEnd?_of_normalizeEnd? {stop requested : Instant}
    (h : normalizeEnd? stop f = some requested) : normalizeEnd? requested f = some requested := by
  unfold normalizeEnd? at h ⊢
  split at h
  · rename_i hintraday
    cases h
    rw [if_pos hintraday, Instant.dropSeconds_dropSeconds]
  · rename_i hintraday
    rw [if_neg hintraday, Instant.date_of_endOf? h, h]

end Disclosure

namespace Window

variable {sessions : SessionTimes} {now₁ now₂ start : Instant} {stop? : Option Instant}
  {f : Frequency} {w₁ w₂ : Window}

/-- A window that does not look ahead ends with what is asked for or with the last observable instant,
whichever comes first. -/
theorem stop_eq_earlier {clock : MarketClock} {w : Window}
    (h : ofRequest? clock start stop? f false = some w) :
    ∃ requested last, Disclosure.normalizeEnd? (stop?.getD clock.now) f = some requested ∧
      Disclosure.lastObservable? clock f = some last ∧ w.stop = Instant.earlier requested last := by
  obtain ⟨-, requested, hrequested, hcut⟩ := of_ofRequest? h
  obtain ⟨requested', last, hrequested', hlast, hstop⟩ := Disclosure.clamp?_eq_some_iff.mp hcut
  cases (Disclosure.normalizeEnd?_of_normalizeEnd? hrequested).symm.trans hrequested'
  exact ⟨requested, last, hrequested, hlast, hstop.symm⟩

/-- The window of a request whose end is not cut. The same bars are counted twice. -/
theorem ofRequest?_of_kept {clock : MarketClock} {lookAhead b : Bool} {requested : Instant}
    (hrequested : Disclosure.normalizeEnd? (stop?.getD clock.now) f = some requested)
    (hkept : Disclosure.clamp? clock requested f lookAhead = some requested)
    (hcovers : Disclosure.coversOneBar? (Disclosure.adjustStart start f) requested f = some b) :
    ofRequest? clock start stop? f lookAhead =
      some ⟨Disclosure.adjustStart start f, requested, b⟩ := by
  simp only [ofRequest?, hrequested, hkept, hcovers, Option.bind_eq_bind, Option.bind_some]
  cases b with
  | true => rfl
  | false =>
    by_cases hle : Disclosure.adjustStart start f ≤ requested
    · simp only [Bool.false_eq_true, if_false, if_pos hle]
      rfl
    · simp only [Bool.false_eq_true, if_false, if_neg hle]
      rfl

/-- A request that has a window without looking ahead has one with it, which ends where it is asked to. -/
theorem exists_lookAhead {clock : MarketClock} {w : Window}
    (h : ofRequest? clock start stop? f false = some w) :
    ∃ wide requested, ofRequest? clock start stop? f true = some wide ∧
      Disclosure.normalizeEnd? (stop?.getD clock.now) f = some requested ∧ wide.stop = requested := by
  simp only [ofRequest?, Option.bind_eq_bind, Option.bind_eq_some_iff] at h
  obtain ⟨requested, hrequested, -, -, asked, hasked, -⟩ := h
  have hkept : Disclosure.clamp? clock requested f true = some requested := by
    rw [Disclosure.clamp?_lookAhead, Disclosure.normalizeEnd?_of_normalizeEnd? hrequested]
  exact ⟨_, requested, ofRequest?_of_kept hrequested hkept hasked, hrequested, rfl⟩

/-- The window of a request at a later time has the same start and a later end, which is not after the
end that is asked for. -/
theorem grows (hnow : now₁ ≤ now₂) (h₁ : ofRequest? ⟨now₁, sessions⟩ start stop? f false = some w₁)
    (h₂ : ofRequest? ⟨now₂, sessions⟩ start stop? f false = some w₂) :
    w₁.start = w₂.start ∧ w₁.stop ≤ w₂.stop ∧
      ∃ w₃, ofRequest? ⟨now₂, sessions⟩ start stop? f true = some w₃ ∧ w₂.stop ≤ w₃.stop := by
  obtain ⟨requested₁, last₁, hrequested₁, hlast₁, hstop₁⟩ := stop_eq_earlier h₁
  obtain ⟨requested₂, last₂, hrequested₂, hlast₂, hstop₂⟩ := stop_eq_earlier h₂
  obtain ⟨w₃, requested₃, hw₃, hrequested₃, hstop₃⟩ := exists_lookAhead h₂
  obtain rfl : requested₂ = requested₃ := Option.some.inj (hrequested₂.symm.trans hrequested₃)
  have hrequested : requested₁ ≤ requested₂ := by
    refine Disclosure.normalizeEnd?_mono ?_ hrequested₁ hrequested₂
    cases stop? with
    | none => exact hnow
    | some stop => exact Int.le_refl _
  refine ⟨(of_ofRequest? h₁).1.trans (of_ofRequest? h₂).1.symm, ?_, w₃, hw₃, ?_⟩
  · rw [hstop₁, hstop₂]
    exact Instant.le_earlier (Instant.le_trans (Instant.earlier_le_left _ _) hrequested)
      (Instant.le_trans (Instant.earlier_le_right _ _)
        (Disclosure.lastObservable?_mono hnow hlast₁ hlast₂))
  · rw [hstop₂, hstop₃]
    exact Instant.earlier_le_left _ _

end Window

end MarketBars
