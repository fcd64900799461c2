import MarketBars.Archive.Folder
import MarketBars.Proofs.Calendar.Order
import MarketBars.Proofs.Outcome

namespace MarketBars

namespace Instant

/-- The instant has no fraction of a second. A leap second counts on within the second before it. -/
def IsWhole (t : Instant) : Prop :=
  t.time.nano = 0 ∨ t.time.nano = 1000000000

/-- A whole second is not after an instant without a fraction exactly when its milliseconds are not. -/
theorem IsWhole.le_iff_millis_le {t last : Instant} (h : t.IsWhole) (hlast : last.time.nano = 0) :
    t ≤ last ↔ t.millis ≤ last.millis := by
  rw [le_iff, rank_eq, rank_eq, hlast, millis, millis, hlast]
  simp only [TimeOfDay.secondWidth]
  rcases h with h | h
  · rw [h]
    omega
  · rw [h]
    omega

end Instant

namespace Pattern

/-- Only the fraction of a pattern sets the fraction that is read. -/
theorem nano_of_readPart {part : Part} (hpart : part ≠ .fraction) {found found' : Numbers}
    {cs rest : List Char} (h : readPart part found cs = .ok (found', rest)) :
    found'.nano = found.nano := by
  cases part with
  | fraction => exact absurd rfl hpart
  | blanks =>
    cases h
    rfl
  | literal c =>
    cases cs with
    | nil => cases h
    | cons d cs =>
      simp only [readPart] at h
      split at h
      · cases h
        rfl
      · cases h
  | _ =>
    -- The other parts are digits, which are kept in a place of their own.
    obtain ⟨⟨n, more⟩, -, hn⟩ := bind_eq_ok_iff.mp h
    cases hn
    rfl

theorem nano_of_read {parts : List Part} (hparts : .fraction ∉ parts) {found found' : Numbers}
    {cs rest : List Char} (h : read parts found cs = .ok (found', rest)) :
    found'.nano = found.nano := by
  induction parts generalizing found cs with
  | nil =>
    cases h
    rfl
  | cons part parts ih =>
    rw [List.mem_cons, not_or] at hparts
    rw [read] at h
    split at h
    · cases h
    · rename_i next more hpart
      rw [ih hparts.2 h, nano_of_readPart (Ne.symm hparts.1) hpart]

theorem nano_of_readAll {parts : List Part} (hparts : .fraction ∉ parts) {s : String}
    {found : Numbers} (h : readAll parts s = .ok found) : found.nano = 0 := by
  rw [readAll] at h
  split at h
  · cases h
  · rename_i found' hread
    cases h
    exact nano_of_read hparts hread
  · cases h

theorem nano_of_time {n : Numbers} (hn : n.nano = 0) {t : TimeOfDay} (h : n.time = .ok t) :
    t.nano = 0 ∨ t.nano = 1000000000 := by
  rw [Numbers.time, hn] at h
  split at h
  · rename_i u hu
    cases h
    simp only [TimeOfDay.ofClock?, Option.dite_none_right_eq_some, Option.some.injEq] at hu
    obtain ⟨-, rfl⟩ := hu
    by_cases hleap : n.second = 60
    · exact Or.inr (by simp [hleap])
    · exact Or.inl (by simp [hleap])
  · cases h

end Pattern

/-- A timestamp is a whole second. -/
theorem Instant.isWhole_of_readStamp {s : String} {t : Instant} (h : Instant.readStamp s = .ok t) :
    t.IsWhole := by
  unfold Instant.readStamp at h
  dsimp only at h
  split at h
  · rename_i u hu
    cases h
    obtain ⟨n, hn, hu⟩ := bind_eq_ok_iff.mp hu
    obtain ⟨d, -, hu⟩ := bind_eq_ok_iff.mp hu
    obtain ⟨time, htime, hu⟩ := bind_eq_ok_iff.mp hu
    cases hu
    exact Pattern.nano_of_time (Pattern.nano_of_readAll (by decide) hn) htime
  · obtain ⟨n, -, h⟩ := bind_eq_ok_iff.mp h
    obtain ⟨d, -, h⟩ := bind_eq_ok_iff.mp h
    cases h
    exact Or.inl rfl

/-- The instants of a calendar are whole seconds. -/
theorem isWhole_of_calendarOfText {text : String} {calendar : List Instant}
    (h : calendarOfText text = .ok calendar) : ∀ t ∈ calendar, t.IsWhole := by
  intro t ht
  obtain ⟨line, -, hline⟩ := (mem_mapM_iff h).mp ht
  rw [archiveStamp] at hline
  split at hline
  · rename_i u hu
    cases hline
    exact Instant.isWhole_of_readStamp hu
  · cases hline

theorem ArchiveFolder.isWhole_of_calendar {a : ArchiveFolder} {f : Frequency}
    {calendar : List Instant} (h : a.calendar f = .ok calendar) : ∀ t ∈ calendar, t.IsWhole := by
  rw [ArchiveFolder.calendar] at h
  split at h
  · cases h
  · exact isWhole_of_calendarOfText h

end MarketBars
