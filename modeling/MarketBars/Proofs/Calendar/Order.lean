import MarketBars.Calendar.Instant

namespace MarketBars

/-- The first of January 2025. -/
def Date.newYear : Date := ⟨20089, by decide, by decide⟩

/-- The second of January 2025. -/
def Date.afterNewYear : Date := ⟨20090, by decide, by decide⟩

namespace TimeOfDay

theorem rank_bounds (t : TimeOfDay) : 0 ≤ t.rank ∧ t.rank < 86400 * secondWidth := by
  have hs := t.second_lt
  have hn := t.nano_lt
  simp only [rank, secondWidth]
  omega

end TimeOfDay

namespace Instant

open TimeOfDay (secondWidth)

/-- The rank of an instant counts its seconds, and then its fraction. -/
theorem rank_eq (t : Instant) : t.rank = t.seconds * secondWidth + t.time.nano := by
  simp only [rank, TimeOfDay.rank, seconds, secondWidth]
  omega

theorem seconds_bounds (t : Instant) :
    t.date.day * 86400 ≤ t.seconds ∧ t.seconds < t.date.day * 86400 + 86400 := by
  have hs := t.time.second_lt
  simp only [seconds]
  omega

theorem of_ofSeconds? {s : Int} {nano : Nat} {t : Instant} (h : ofSeconds? s nano = some t) :
    t.seconds = s ∧ t.time.nano = nano := by
  unfold ofSeconds? at h
  split at h
  · simp at h
  · rename_i d hd
    have hday := Date.ofDay?_eq_some_iff.mp hd
    split at h
    · simp only [Option.some.injEq] at h
      subst h
      refine ⟨?_, rfl⟩
      simp only [seconds, hday]
      omega
    · simp at h

/-- An instant without a fraction moves by whole seconds. -/
theorem of_addSeconds? {t u : Instant} {n : Int} (ht : t.time.nano = 0)
    (h : t.addSeconds? n = some u) : u.seconds = t.seconds + n ∧ u.time.nano = 0 := by
  unfold addSeconds? at h
  rw [if_pos (Or.inl (by omega)), ht] at h
  exact of_ofSeconds? h

/-- An instant without a fraction moves as far as the calendar goes. -/
theorem exists_addSeconds? {t : Instant} {n : Int} (ht : t.time.nano = 0)
    (hfirst : firstDay * 86400 ≤ t.seconds + n) (hlast : t.seconds + n < (lastDay + 1) * 86400) :
    ∃ u, t.addSeconds? n = some u ∧ u.seconds = t.seconds + n ∧ u.time.nano = 0 := by
  have hday : firstDay ≤ (t.seconds + n) / 86400 ∧ (t.seconds + n) / 86400 ≤ lastDay := by omega
  have hsome : Date.ofDay? ((t.seconds + n) / 86400) = some ⟨_, hday.1, hday.2⟩ := dif_pos hday
  have htime : ((t.seconds + n) % 86400).toNat < 86400 ∧ 0 < 2000000000 := by omega
  have hadd : t.addSeconds? n =
      some ⟨⟨_, hday.1, hday.2⟩, ⟨((t.seconds + n) % 86400).toNat, 0, htime.1, htime.2⟩⟩ := by
    rw [addSeconds?, if_pos (Or.inl (by omega)), ht, ofSeconds?, hsome]
    exact dif_pos htime
  obtain ⟨hseconds, hnano⟩ := of_addSeconds? ht hadd
  exact ⟨_, hadd, hseconds, hnano⟩

theorem seconds_startOf (d : Date) : (startOf d).seconds = d.day * 86400 := by
  simp [seconds, startOf, TimeOfDay.midnight, TimeOfDay.ofSecond]

theorem startOf_le_lastSecond {d e : Date} (h : d ≤ e) : startOf d ≤ ⟨e, .lastSecond⟩ := by
  have hdays := Date.le_iff.mp h
  rw [le_iff, rank_eq, rank_eq, seconds_startOf]
  simp only [seconds, startOf, TimeOfDay.midnight, TimeOfDay.lastSecond, TimeOfDay.ofSecond,
    secondWidth]
  omega

@[simp] theorem nano_startOf (d : Date) : (startOf d).time.nano = 0 := rfl

/-- The end of a date is its last second, without a fraction. -/
theorem of_endOf? {d : Date} {e : Instant} (h : endOf? d = some e) :
    e.seconds = d.day * 86400 + 86399 ∧ e.time.nano = 0 := by
  simp only [endOf?, Option.bind_eq_bind, Option.bind_eq_some_iff] at h
  obtain ⟨next, hnext, he⟩ := h
  obtain ⟨hs, hn⟩ := of_addSeconds? rfl hnext
  obtain ⟨hs', hn'⟩ := of_addSeconds? hn he
  rw [seconds_startOf] at hs
  exact ⟨by omega, hn'⟩

theorem date_of_endOf? {d : Date} {e : Instant} (h : endOf? d = some e) : e.date = d := by
  have hseconds := (of_endOf? h).1
  have hbounds := e.seconds_bounds
  exact Date.eq_of_day_eq (by omega)

/-- Every date but the last one of the calendar has an end. -/
theorem exists_endOf? {d : Date} (h : d.day < lastDay) : ∃ e, endOf? d = some e := by
  have hfirst := d.first_le
  obtain ⟨next, hnext, hs, hn⟩ := @exists_addSeconds? (startOf d) 86400 rfl
    (by rw [seconds_startOf]; omega) (by rw [seconds_startOf]; omega)
  rw [seconds_startOf] at hs
  obtain ⟨e, he, -⟩ := @exists_addSeconds? next (-1) hn (by omega) (by omega)
  refine ⟨e, ?_⟩
  rw [endOf?, Option.bind_eq_bind, hnext]
  exact he

theorem ofMillis?_startOf (d : Date) : ofMillis? (startOf d).millis = some (startOf d) := by
  have hmillis : (startOf d).millis = d.day * 86400000 := by
    have hs := seconds_startOf d
    simp only [millis, hs, nano_startOf]
    omega
  have hday : d.day * 86400000 / 1000 / 86400 = d.day := by omega
  have hseconds : (d.day * 86400000 / 1000 % 86400).toNat = 0 := by omega
  have hnano : (d.day * 86400000 % 1000).toNat * 1000000 = 0 := by omega
  have hdate : Date.ofDay? d.day = some d := Date.ofDay?_eq_some_iff.mpr rfl
  rw [hmillis, ofMillis?, ofSeconds?, hday, hdate]
  simp only [hseconds, hnano]
  rfl

@[simp] theorem date_dropSeconds (t : Instant) : t.dropSeconds.date = t.date := rfl

@[simp] theorem nano_dropSeconds (t : Instant) : t.dropSeconds.time.nano = 0 := rfl

theorem seconds_dropSeconds (t : Instant) : t.dropSeconds.seconds = t.seconds / 60 * 60 := by
  have hs := t.time.second_lt
  simp only [seconds, dropSeconds, TimeOfDay.dropSeconds]
  omega

theorem dropSeconds_startOf (d : Date) : (startOf d).dropSeconds = startOf d := by
  apply eq_of_rank_eq
  have hminute : d.day * 86400 / 60 * 60 = d.day * 86400 := by omega
  rw [rank_eq, rank_eq, seconds_dropSeconds, seconds_startOf, hminute, nano_dropSeconds, nano_startOf]

theorem rank_dropSeconds (t : Instant) :
    t.dropSeconds.rank = t.seconds / 60 * 60 * secondWidth := by
  rw [rank_eq, seconds_dropSeconds, nano_dropSeconds]
  omega

/-- The whole minute of an instant is the last one that is not after it. A leap second belongs to the
minute before it. -/
theorem dropSeconds_bounds (t : Instant) :
    t.dropSeconds.rank ≤ t.rank ∧ t.rank < t.dropSeconds.rank + 60 * secondWidth := by
  have hn := t.time.nano_lt
  rw [rank_dropSeconds, rank_eq]
  simp only [secondWidth]
  omega

theorem le_trans {a b c : Instant} (hab : a ≤ b) (hbc : b ≤ c) : a ≤ c :=
  Int.le_trans hab hbc

/-- An instant without a fraction has no more milliseconds than any instant after it. -/
theorem millis_le_of_le {a b : Instant} (ha : a.time.nano = 0) (h : a ≤ b) : a.millis ≤ b.millis := by
  rw [le_iff, rank_eq, rank_eq, ha] at h
  have hn := b.time.nano_lt
  simp only [millis, ha, secondWidth] at h ⊢
  omega

theorem le_total (a b : Instant) : a ≤ b ∨ b ≤ a :=
  Int.le_total a.rank b.rank

theorem lt_of_le_of_ne {a b : Instant} (hle : a ≤ b) (hne : a ≠ b) : a < b := by
  rw [lt_iff]
  rw [le_iff] at hle
  have hrank : a.rank ≠ b.rank := fun h => hne (eq_of_rank_eq h)
  omega

end Instant

end MarketBars
