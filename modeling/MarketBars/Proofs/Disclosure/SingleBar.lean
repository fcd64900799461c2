import Mathlib.Logic.Pairwise
import MarketBars.Proofs.Disclosure.Growth

/-!
# Windows of a single bar

A window is marked when it holds a single bar, or when the request held a single bar before its end was cut.
The mark is exact: a window in which there is room for a bar is marked when there is room for one bar only,
and an empty one when a single bar was asked for. Of instants that belong to different bars, no two are
inside a stretch of time with room for one.
-/

namespace MarketBars

open TimeOfDay (secondWidth)

namespace Instant

theorem seconds_of_addSeconds? {t u : Instant} {n : Int} (hn : 0 < n) (h : t.addSeconds? n = some u) :
    u.seconds = t.seconds + n := by
  simp only [addSeconds?, hn, if_true] at h
  split at h <;> exact (of_ofSeconds? h).1

/-- What begins later ends later. The extra second of a leap second is gone after a move. -/
theorem addSeconds?_le {a b c d : Instant} {n : Int} (ha : a.time.nano = 0) (hn : 0 < n) (hab : a ≤ b)
    (hc : a.addSeconds? n = some c) (hd : b.addSeconds? n = some d) : c ≤ d := by
  obtain ⟨hseconds, hnano⟩ := of_addSeconds? ha hc
  have hseconds' := seconds_of_addSeconds? hn hd
  have hle := seconds_mono hab
  rw [le_iff, rank_eq, rank_eq, hseconds, hseconds', hnano]
  simp only [secondWidth]
  omega

end Instant

namespace Frequency

/-- A stretch of time has room for one bar: for a minute bar it ends before the next bar begins, for a longer
one on the day on which it begins. -/
def SpansOneBar (f : Frequency) (start stop : Instant) : Prop :=
  start ≤ stop ∧
    match f.barSeconds? with
    | some bar => ∃ next, start.addSeconds? bar = some next ∧ stop < next
    | none => start.date = stop.date

/-- Two instants are at least one bar apart, or for bars of a day or longer on different days. -/
def Apart (f : Frequency) (a b : Instant) : Prop :=
  match f.barSeconds? with
  | some bar => (∃ next, a.addSeconds? bar = some next ∧ next ≤ b) ∨
      ∃ next, b.addSeconds? bar = some next ∧ next ≤ a
  | none => a.date ≠ b.date

/-- Any two of some instants are at least one bar apart. -/
def Spaced (f : Frequency) (stamps : Set Instant) : Prop := stamps.Pairwise f.Apart

variable {f : Frequency} {start stop : Instant}

theorem barSeconds?_eq_none_iff : f.barSeconds? = none ↔ f.isIntraday = false := by
  rw [f.isIntraday_eq_isSome, Option.isSome_eq_false_iff, Option.isNone_iff_eq_none]

/-- A bar that begins in a stretch of time with room for one is not over within it. -/
theorem SpansOneBar.not_apart (h : f.SpansOneBar start stop) (hnano : start.time.nano = 0) {a b : Instant}
    (ha : start ≤ a ∧ a ≤ stop) (hb : start ≤ b ∧ b ≤ stop) : ¬ f.Apart a b := by
  obtain ⟨-, h⟩ := h
  cases hf : f.barSeconds? with
  | some bar =>
    rw [hf] at h
    obtain ⟨next, hnext, hstop⟩ := h
    have hbar := (barSeconds?_bounds hf).1
    have hover : ∀ c d e : Instant, start ≤ c → c.addSeconds? bar = some d → d ≤ e → ¬ e ≤ stop := by
      intro c d e hc hd he hle
      have hnext' := Instant.addSeconds?_le hnano (by omega) hc hnext hd
      rw [Instant.le_iff] at hnext' he hle
      rw [Instant.lt_iff] at hstop
      omega
    simp only [Apart, hf]
    rintro (⟨ended, hended, hle⟩ | ⟨ended, hended, hle⟩)
    · exact hover a ended b ha.1 hended hle hb.2
    · exact hover b ended a hb.1 hended hle ha.2
  | none =>
    rw [hf] at h
    have hday : start.date.day = stop.date.day := congrArg Date.day h
    have hfrom := Instant.day_mono ha.1
    have hto := Instant.day_mono ha.2
    have hfrom' := Instant.day_mono hb.1
    have hto' := Instant.day_mono hb.2
    simp only [Apart, hf]
    exact fun hne => hne (Date.eq_of_day_eq (by omega))

theorem Spaced.eq_of_spansOneBar {stamps : Set Instant} (hspaced : f.Spaced stamps)
    (h : f.SpansOneBar start stop) (hnano : start.time.nano = 0) {a b : Instant} (ha : a ∈ stamps)
    (hb : b ∈ stamps) (hin : start ≤ a ∧ a ≤ stop) (hin' : start ≤ b ∧ b ≤ stop) : a = b := by
  by_contra hne
  exact h.not_apart hnano hin hin' (hspaced ha hb hne)

theorem SpansOneBar.cut (h : f.SpansOneBar start stop) {cut : Instant} (hstart : start ≤ cut)
    (hstop : cut ≤ stop) : f.SpansOneBar start cut := by
  obtain ⟨-, h⟩ := h
  refine ⟨hstart, ?_⟩
  cases hf : f.barSeconds? with
  | some bar =>
    rw [hf] at h
    obtain ⟨next, hnext, hlt⟩ := h
    rw [Instant.lt_iff] at hlt
    rw [Instant.le_iff] at hstop
    exact ⟨next, hnext, Instant.lt_iff.mpr (by omega)⟩
  | none =>
    rw [hf] at h
    have hday : start.date.day = stop.date.day := congrArg Date.day h
    have hfrom := Instant.day_mono hstart
    have hto := Instant.day_mono hstop
    exact Date.eq_of_day_eq (by omega)

end Frequency

namespace Disclosure

variable {clock : MarketClock} {f : Frequency} {t stop cut requested : Instant} {b lookAhead : Bool}

/-- The check for a single bar tells whether there is room for one. -/
theorem coversOneBar?_eq_some (h : coversOneBar? (adjustStart t f) stop f = some b) :
    b = true ↔ f.SpansOneBar (adjustStart t f) stop := by
  cases hf : f.barSeconds? with
  | some bar =>
    simp only [coversOneBar?, hf] at h
    simp only [Frequency.SpansOneBar, hf]
    by_cases hle : adjustStart t f ≤ stop
    · rw [if_pos hle] at h
      obtain ⟨next, hnext, hb⟩ := Option.bind_eq_some_iff.mp h
      cases hb
      simp [hle, hnext]
    · rw [if_neg hle] at h
      cases h
      simp [hle]
  | none =>
    have hstart : adjustStart t f = .startOf t.date := by
      rw [adjustStart, Frequency.barSeconds?_eq_none_iff.mp hf, if_neg Bool.false_ne_true]
    simp only [coversOneBar?, hf] at h
    simp only [Frequency.SpansOneBar, hf, hstart] at h ⊢
    cases h
    -- A day begins before everything on it.
    have hle : t.date = stop.date → Instant.startOf t.date ≤ stop := by
      intro hdate
      have hstop := stop.seconds_bounds
      rw [Instant.le_iff, Instant.rank_eq, Instant.rank_eq, Instant.seconds_startOf, Instant.nano_startOf,
        hdate]
      simp only [secondWidth]
      omega
    have hdate : (Instant.startOf t.date).date = t.date := rfl
    simpa [hdate] using hle

theorem exists_coversOneBar? (h : coversOneBar? t stop f = some b) (hcut : cut ≤ stop) :
    ∃ b', coversOneBar? t cut f = some b' := by
  cases hf : f.barSeconds? with
  | some bar =>
    simp only [coversOneBar?, hf] at h ⊢
    by_cases hle : t ≤ cut
    · rw [if_pos (Instant.le_trans hle hcut)] at h
      obtain ⟨next, hnext, -⟩ := Option.bind_eq_some_iff.mp h
      rw [if_pos hle, hnext]
      exact ⟨_, rfl⟩
    · rw [if_neg hle]
      exact ⟨_, rfl⟩
  | none =>
    simp only [coversOneBar?, hf]
    exact ⟨_, rfl⟩

theorem clamp?_le (hrequested : normalizeEnd? t f = some requested)
    (h : clamp? clock t f lookAhead = some cut) : cut ≤ requested := by
  cases lookAhead with
  | true =>
    rw [clamp?_lookAhead, hrequested] at h
    cases h
    exact Int.le_refl _
  | false =>
    obtain ⟨requested', last, hrequested', -, rfl⟩ := clamp?_eq_some_iff.mp h
    cases hrequested.symm.trans hrequested'
    exact Instant.earlier_le_left _ _

end Disclosure

namespace Window

variable {clock : MarketClock} {start : Instant} {stop? : Option Instant} {f : Frequency}
  {lookAhead : Bool} {w wide : Window}

def Contains (w : Window) (t : Instant) : Prop := w.start ≤ t ∧ t ≤ w.stop

theorem isEmpty_eq_false_iff : w.isEmpty = false ↔ w.start ≤ w.stop := by
  simp [isEmpty, Instant.lt_iff, Instant.le_iff]

/-- A window is marked when there was room for one bar in what was asked for, or there is in what is left. -/
theorem singleDate_iff (h : ofRequest? clock start stop? f lookAhead = some w) :
    ∃ requested, Disclosure.normalizeEnd? (stop?.getD clock.now) f = some requested ∧
      w.stop ≤ requested ∧
      (w.singleDate = true ↔ f.SpansOneBar w.start requested ∨ f.SpansOneBar w.start w.stop) := by
  simp only [ofRequest?, Option.bind_eq_bind, Option.bind_eq_some_iff] at h
  obtain ⟨requested, hrequested, stop, hstop, asked, hasked, hw⟩ := h
  refine ⟨requested, hrequested, ?_⟩
  have hle := Disclosure.clamp?_le (Disclosure.normalizeEnd?_of_normalizeEnd? hrequested) hstop
  have hrequest := Disclosure.coversOneBar?_eq_some hasked
  cases asked with
  | true =>
    cases hw
    exact ⟨hle, by simp [hrequest.mp rfl]⟩
  | false =>
    -- What is left is looked at only when more was asked for and something is left.
    have hmany : ¬ f.SpansOneBar (Disclosure.adjustStart start f) requested :=
      fun hone => Bool.false_ne_true (hrequest.mpr hone)
    by_cases hsome : Disclosure.adjustStart start f ≤ stop
    · simp only [Bool.false_eq_true, if_false, if_pos hsome] at hw
      obtain ⟨left, hleft, hw⟩ := Option.bind_eq_some_iff.mp hw
      cases hw
      exact ⟨hle, by simp [hmany, Disclosure.coversOneBar?_eq_some hleft]⟩
    · simp only [Bool.false_eq_true, if_false, if_neg hsome] at hw
      cases hw
      have hnone : ¬ f.SpansOneBar (Disclosure.adjustStart start f) stop := fun hone => hsome hone.1
      exact ⟨hle, by simp [hmany, hnone]⟩

/-- A window that is not empty is marked exactly when there is room for one bar in it. -/
theorem singleDate_iff_of_nonempty (h : ofRequest? clock start stop? f lookAhead = some w)
    (hsome : w.isEmpty = false) : w.singleDate = true ↔ f.SpansOneBar w.start w.stop := by
  obtain ⟨requested, -, hle, hmark⟩ := singleDate_iff h
  rw [hmark]
  constructor
  · rintro (hasked | hleft)
    · exact hasked.cut (isEmpty_eq_false_iff.mp hsome) hle
    · exact hleft
  · exact Or.inr

/-- An empty window is marked exactly when there was room for one bar in what was asked for. -/
theorem singleDate_iff_of_empty (h : ofRequest? clock start stop? f lookAhead = some w)
    (hnone : w.isEmpty = true) :
    ∃ requested, Disclosure.normalizeEnd? (stop?.getD clock.now) f = some requested ∧
      (w.singleDate = true ↔ f.SpansOneBar w.start requested) := by
  obtain ⟨requested, hrequested, -, hmark⟩ := singleDate_iff h
  have hempty : ¬ f.SpansOneBar w.start w.stop := by
    rintro ⟨hle, -⟩
    rw [isEmpty_eq_false_iff.mpr hle] at hnone
    cases hnone
  exact ⟨requested, hrequested, by simp [hmark, hempty]⟩

/-- A request that is for one bar when it looks ahead is for one bar when it does not. -/
theorem singleDate_of_lookAhead (h : ofRequest? clock start stop? f lookAhead = some w)
    (hwide : ofRequest? clock start stop? f true = some wide) (hone : wide.singleDate = true) :
    w.singleDate = true := by
  obtain ⟨requested, hrequested, -, hmark⟩ := singleDate_iff h
  obtain ⟨requested', hrequested', hle, hmark'⟩ := singleDate_iff hwide
  cases hrequested.symm.trans hrequested'
  have hstart : w.start = wide.start := (of_ofRequest? h).1.trans (of_ofRequest? hwide).1.symm
  rw [hmark, hstart]
  rcases hmark'.mp hone with hasked | hleft
  · exact Or.inl hasked
  · obtain ⟨-, requested'', hrequested'', hstop⟩ := of_ofRequest? hwide
    cases hrequested.symm.trans hrequested''
    rw [Disclosure.clamp?_lookAhead, Disclosure.normalizeEnd?_of_normalizeEnd? hrequested] at hstop
    cases hstop
    exact Or.inl hleft

end Window

end MarketBars
