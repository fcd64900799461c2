import MarketBars.Proofs.Archive.Instrument

namespace MarketBars

namespace FeatureSeries

variable {s : FeatureSeries} {series : List FeatureSeries} {last p : Nat}

/-- The position after the last value of a series is one. -/
def Ends (s : FeatureSeries) : Prop := s.start + s.values.size ≤ Binary32.maxIndex

instance (s : FeatureSeries) : Decidable s.Ends := inferInstanceAs (Decidable (_ ≤ _))

theorem mapM_stop?_eq_some_iff {stops : List Nat} :
    series.mapM stop? = some stops ↔
      (∀ s ∈ series, s.Ends) ∧ stops = series.map fun s => s.start + s.values.size := by
  induction series generalizing stops with
  | nil => simp [eq_comm]
  | cons s rest ih =>
    have hstop : ∀ n, s.stop? = some n ↔ s.Ends ∧ s.start + s.values.size = n := by
      intro n
      simp [stop?, Ends]
    simp only [List.mapM_cons, Option.bind_eq_bind, Option.bind_eq_some_iff, hstop, ih, Option.pure_def,
      Option.some.injEq, List.forall_mem_cons, List.map_cons]
    constructor
    · rintro ⟨n, ⟨hs, rfl⟩, more, ⟨hrest, rfl⟩, rfl⟩
      exact ⟨⟨hs, hrest⟩, rfl⟩
    · rintro ⟨⟨hs, hrest⟩, rfl⟩
      exact ⟨_, ⟨hs, rfl⟩, _, ⟨hrest, rfl⟩, rfl⟩

theorem exists_latestStop?_iff : (∃ last, latestStop? series = some last) ↔ ∀ s ∈ series, s.Ends := by
  simp only [latestStop?, Option.map_eq_some_iff]
  constructor
  · rintro ⟨last, stops, hstops, -⟩
    exact (mapM_stop?_eq_some_iff.mp hstops).1
  · intro h
    exact ⟨_, _, mapM_stop?_eq_some_iff.mpr ⟨h, rfl⟩, rfl⟩

theorem lt_latestStop?_iff (h : latestStop? series = some last) :
    p < last ↔ ∃ s ∈ series, p < s.start + s.values.size := by
  obtain ⟨stops, hstops, rfl⟩ := Option.map_eq_some_iff.mp h
  obtain ⟨-, rfl⟩ := mapM_stop?_eq_some_iff.mp hstops
  cases hmax : (series.map fun s => s.start + s.values.size).max? with
  | none =>
    have hnil : series = [] := by simpa using hmax
    simp [hnil]
  | some last =>
    obtain ⟨hmem, hle⟩ := List.max?_eq_some_iff.mp hmax
    rw [Option.getD_some]
    constructor
    · intro hlt
      obtain ⟨s, hs, hstop⟩ := List.mem_map.mp hmem
      exact ⟨s, hs, by omega⟩
    · rintro ⟨s, hs, hlt⟩
      have hstop := hle _ (List.mem_map_of_mem hs)
      omega

theorem earliestStart_le_iff (h : series ≠ []) : earliestStart series ≤ p ↔ ∃ s ∈ series, s.start ≤ p := by
  cases hmin : (series.map start).min? with
  | none => exact absurd (by simpa using hmin) h
  | some first =>
    obtain ⟨hmem, hle⟩ := List.min?_eq_some_iff.mp hmin
    rw [earliestStart, hmin, Option.getD_some]
    constructor
    · intro hlt
      obtain ⟨s, hs, rfl⟩ := List.mem_map.mp hmem
      exact ⟨s, hs, hlt⟩
    · rintro ⟨s, hs, hstart⟩
      exact Nat.le_trans (hle _ (List.mem_map_of_mem hs)) hstart

end FeatureSeries

namespace Archive

variable {a : Archive} {symbol : String} {fields : List String} {f : Frequency}

def Fits (a : Archive) (symbol : String) (fields : List String) (f : Frequency) : Prop :=
  ∀ field ∈ fields, ∀ s, a.feature symbol field f = .ok (some s) → s.Ends

theorem fits_iff {files : List (String × Option FeatureSeries)}
    (hfiles : a.featureFiles symbol fields f = .ok files) :
    a.Fits symbol fields f ↔ ∀ s ∈ (found files).map Prod.snd, s.Ends := by
  constructor
  · intro h s hs
    obtain ⟨⟨field, s⟩, hmem, rfl⟩ := List.mem_map.mp hs
    obtain ⟨hfield, hread⟩ := (mem_found_iff hfiles).mp hmem
    exact h field hfield s hread
  · intro h field hfield s hread
    exact h s (List.mem_map_of_mem (f := Prod.snd) ((mem_found_iff hfiles).mpr ⟨hfield, hread⟩))

/-- An instrument is loaded, with or without a table, when all its files can be read and end at positions. -/
theorem exists_load_of_fits (calendar : Array Instant) (start stop : Instant) (hfields : fields.Nodup)
    (hstamp : Table.stampName ∉ fields)
    (hread : ∀ field ∈ factorField :: fields, ∃ series?, a.feature symbol field f = .ok series?)
    (hfits : a.Fits symbol fields f) : ∃ got?, a.load symbol fields f calendar start stop = .ok got? := by
  obtain ⟨⟨factor?, hfactor⟩, hread⟩ := List.forall_mem_cons.mp hread
  obtain ⟨files, hfiles⟩ : ∃ files, a.featureFiles symbol fields f = .ok files := exists_mapM_pair hread
  by_cases hfound : found files = []
  · exact ⟨none, load_of_not_found hfiles hfound⟩
  · obtain ⟨last, hlast⟩ := FeatureSeries.exists_latestStop?_iff.mpr ((fits_iff hfiles).mp hfits)
    obtain ⟨t, ht⟩ := exists_load calendar start stop hfields hstamp hfiles hfound hfactor hlast
    exact ⟨_, ht⟩

end Archive

section Positions

variable {calendar : Array Instant} {start stop : Instant} {first last i : Nat}

theorem mem_calendarPositions_iff :
    i ∈ calendarPositions calendar start stop first last ↔
      first ≤ i ∧ i < last ∧ ∃ t, calendar[i]? = some t ∧ start ≤ t ∧ t ≤ stop := by
  rw [calendarPositions, List.mem_filter, List.mem_range'_1]
  cases ht : calendar[i]? with
  | none => simp
  | some t =>
    have hrange : (first ≤ i ∧ i < first + (last - first)) ↔ first ≤ i ∧ i < last := by omega
    simp [hrange, and_assoc]

theorem pairwise_calendarPositions :
    (calendarPositions calendar start stop first last).Pairwise (· < ·) :=
  List.Pairwise.filter _ List.pairwise_lt_range'

end Positions

end MarketBars
