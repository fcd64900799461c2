import MarketBars.Disclosure
import MarketBars.Proofs.Calendar.Order

/-!
# Instants and whole milliseconds

Whole milliseconds are a coarser order than that of instants. An instant between two of them is counted
with the earlier one, and a leap second has the milliseconds of the second after it. A stretch of time
whose bounds are counted in milliseconds may therefore hold milliseconds that do not lie between the
bounds, or miss some that do.
-/

namespace MarketBars

namespace Instant

/-- The first whole millisecond that is not before an instant. The one after a leap second begins the
next second. -/
def millisFrom (t : Instant) : Int :=
  if t.time.nano < 1000000000 then t.seconds * 1000 + ((t.time.nano + 999999) / 1000000 : Nat)
  else (t.seconds + 1) * 1000

/-- The last whole millisecond that is not after an instant. The one before a leap second ends the
second before it. -/
def millisTo (t : Instant) : Int :=
  if t.time.nano < 1000000000 then t.millis else t.seconds * 1000 + 999

/-- The first millisecond after the last second of the calendar. -/
def endMillis : Int := (lastDay + 1) * 86400000

theorem of_ofMillis? {ms : Int} {t : Instant} (h : ofMillis? ms = some t) :
    t.seconds = ms / 1000 ∧ t.time.nano = (ms % 1000).toNat * 1000000 :=
  of_ofSeconds? h

theorem millis_of_ofMillis? {ms : Int} {t : Instant} (h : ofMillis? ms = some t) : t.millis = ms := by
  obtain ⟨hseconds, hnano⟩ := of_ofMillis? h
  rw [millis, hseconds, hnano]
  omega

theorem le_millis (t : Instant) : firstDay * 86400000 ≤ t.millis := by
  have hday := t.date.first_le
  have hbounds := t.seconds_bounds
  simp only [millis]
  omega

/-- Only in a leap second are there milliseconds after the end of the calendar. -/
theorem millis_lt_endMillis {t : Instant} (h : t.time.nano < 1000000000) : t.millis < endMillis := by
  have hday := t.date.le_last
  have hbounds := t.seconds_bounds
  simp only [millis, endMillis]
  omega

/-- There are none for an instant that is not after one without a fraction. -/
theorem millis_lt_endMillis_of_le {t u : Instant} (hu : u.time.nano = 0) (h : t ≤ u) :
    t.millis < endMillis := by
  have hday := u.date.le_last
  have hbounds := u.seconds_bounds
  have hnano := t.time.nano_lt
  rw [le_iff, rank_eq, rank_eq, hu] at h
  simp only [TimeOfDay.secondWidth] at h
  simp only [millis, endMillis]
  omega

/-- A whole millisecond of the calendar is that of an instant. -/
theorem exists_ofMillis? {ms : Int} (hfirst : firstDay * 86400000 ≤ ms) (hlast : ms < endMillis) :
    ∃ t, ofMillis? ms = some t := by
  have hday : firstDay ≤ ms / 1000 / 86400 ∧ ms / 1000 / 86400 ≤ lastDay := by
    simp only [endMillis] at hlast
    omega
  have hdate : Date.ofDay? (ms / 1000 / 86400) = some ⟨_, hday.1, hday.2⟩ := dif_pos hday
  have htime : (ms / 1000 % 86400).toNat < 86400 ∧ (ms % 1000).toNat * 1000000 < 2000000000 := by
    omega
  rw [ofMillis?, ofSeconds?, hdate]
  exact ⟨_, dif_pos htime⟩

/-- An instant without a fraction is that of its milliseconds. -/
theorem ofMillis?_millis {t : Instant} (h : t.time.nano = 0) : ofMillis? t.millis = some t := by
  have hms : t.millis = t.seconds * 1000 := by simp [millis, h]
  obtain ⟨u, hu⟩ := exists_ofMillis? t.le_millis (millis_lt_endMillis (by omega))
  obtain ⟨hseconds, hnano⟩ := of_ofMillis? hu
  rw [hu]
  refine congrArg some (eq_of_rank_eq ?_)
  rw [rank_eq, rank_eq, hseconds, hnano, hms, h]
  simp only [TimeOfDay.secondWidth]
  omega

theorem lt_of_ofMillis? {ms ms' : Int} {t u : Instant} (ht : ofMillis? ms = some t)
    (hu : ofMillis? ms' = some u) (h : ms < ms') : t < u := by
  obtain ⟨hseconds, hnano⟩ := of_ofMillis? ht
  obtain ⟨hseconds', hnano'⟩ := of_ofMillis? hu
  rw [lt_iff, rank_eq, rank_eq, hseconds, hnano, hseconds', hnano']
  simp only [TimeOfDay.secondWidth]
  omega

theorem le_iff_millisFrom_le {ms : Int} {t : Instant} (h : ofMillis? ms = some t) (u : Instant) :
    u ≤ t ↔ u.millisFrom ≤ ms := by
  obtain ⟨hseconds, hnano⟩ := of_ofMillis? h
  have hlt := u.time.nano_lt
  rw [le_iff, rank_eq, rank_eq, hseconds, hnano, millisFrom]
  simp only [TimeOfDay.secondWidth]
  split
  · omega
  · omega

theorem le_iff_le_millisTo {ms : Int} {t : Instant} (h : ofMillis? ms = some t) (u : Instant) :
    t ≤ u ↔ ms ≤ u.millisTo := by
  obtain ⟨hseconds, hnano⟩ := of_ofMillis? h
  have hlt := u.time.nano_lt
  rw [le_iff, rank_eq, rank_eq, hseconds, hnano, millisTo]
  simp only [TimeOfDay.secondWidth, millis]
  split
  · omega
  · omega

theorem le_millisFrom (t : Instant) : firstDay * 86400000 ≤ t.millisFrom := by
  have hday := t.date.first_le
  have hbounds := t.seconds_bounds
  unfold millisFrom
  split <;> omega

theorem millisTo_lt (t : Instant) : t.millisTo < endMillis := by
  have hday := t.date.le_last
  have hbounds := t.seconds_bounds
  simp only [millisTo, millis, endMillis]
  split <;> omega

end Instant

namespace Window

/-- A whole millisecond lies between the bounds of a window, both included. -/
def Covers (w : Window) (ms : Int) : Prop :=
  ∃ t, Instant.ofMillis? ms = some t ∧ w.start ≤ t ∧ t ≤ w.stop

theorem covers_iff {w : Window} {ms : Int} :
    w.Covers ms ↔ w.start.millisFrom ≤ ms ∧ ms ≤ w.stop.millisTo := by
  constructor
  · rintro ⟨t, ht, hstart, hstop⟩
    exact ⟨(Instant.le_iff_millisFrom_le ht _).mp hstart, (Instant.le_iff_le_millisTo ht _).mp hstop⟩
  · rintro ⟨hstart, hstop⟩
    obtain ⟨t, ht⟩ := Instant.exists_ofMillis?
      (Int.le_trans w.start.le_millisFrom hstart) (Int.lt_of_le_of_lt hstop w.stop.millisTo_lt)
    exact ⟨t, ht, (Instant.le_iff_millisFrom_le ht _).mpr hstart,
      (Instant.le_iff_le_millisTo ht _).mpr hstop⟩

/-- A number of milliseconds is between those of the bounds of a window, both included. -/
def Counts (w : Window) (ms : Int) : Prop :=
  w.start.millis ≤ ms ∧ ms ≤ w.stop.millis

/-- The bounds of a window lose nothing when they are counted in milliseconds, or they are in the wrong
order either way. -/
def CountsExactly (w : Window) : Prop :=
  (w.start.millisFrom = w.start.millis ∧ w.stop.millisTo = w.stop.millis) ∨
    (w.stop.millisTo < w.start.millisFrom ∧ w.stop.millis < w.start.millis)

instance (w : Window) : Decidable w.CountsExactly :=
  inferInstanceAs (Decidable (_ ∨ _))

/-- The milliseconds of instants tell whether they lie in a window exactly when its bounds lose nothing
in them. -/
theorem countsExactly_iff {w : Window} :
    w.CountsExactly ↔ ∀ u : Instant, w.Counts u.millis ↔ w.Covers u.millis := by
  simp only [covers_iff, Counts]
  constructor
  · rintro (⟨hstart, hstop⟩ | ⟨hcovered, hcounted⟩) u
    · rw [hstart, hstop]
    · omega
  · intro h
    have hstart := h w.start
    have hstop := h w.stop
    -- The ends of what is covered are instants too, if anything is covered.
    have hends : w.start.millisFrom ≤ w.stop.millisTo →
        w.start.millis ≤ w.start.millisFrom ∧ w.stop.millisTo ≤ w.stop.millis := by
      intro hle
      have hfirst := w.start.le_millisFrom
      have hlast := w.stop.millisTo_lt
      obtain ⟨t, ht⟩ := Instant.exists_ofMillis? hfirst (Int.lt_of_le_of_lt hle hlast)
      obtain ⟨u, hu⟩ := Instant.exists_ofMillis? (Int.le_trans hfirst hle) hlast
      have hfrom := h t
      have hto := h u
      rw [Instant.millis_of_ofMillis? ht] at hfrom
      rw [Instant.millis_of_ofMillis? hu] at hto
      omega
    unfold CountsExactly
    omega

/-- Bounds without fractions lose nothing. -/
theorem countsExactly_of_nano {w : Window} (hstart : w.start.time.nano = 0)
    (hstop : w.stop.time.nano = 0) : w.CountsExactly := by
  refine .inl ⟨?_, ?_⟩
  · simp [Instant.millisFrom, Instant.millis, hstart]
  · simp [Instant.millisTo, hstop]

/-- Of instants without fractions, milliseconds tell whether they lie between the bounds. -/
theorem CountsExactly.counts_iff {w : Window} (h : w.CountsExactly) {t : Instant}
    (ht : t.time.nano = 0) : w.Counts t.millis ↔ w.start ≤ t ∧ t ≤ w.stop := by
  have hmillis := Instant.ofMillis?_millis ht
  rw [countsExactly_iff.mp h t, covers_iff, Instant.le_iff_millisFrom_le hmillis,
    Instant.le_iff_le_millisTo hmillis]

end Window

end MarketBars
