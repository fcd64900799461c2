import MarketBars.Proofs.Archive.Extent
import MarketBars.Proofs.Number.Single
import MarketBars.Proofs.Table.Dedup

/-!
# Files along the calendar

The files of an instrument begin at different positions of the calendar, and have different lengths. The
table of the instrument has the instants of the calendar at the positions that some file reaches to, each
once and in ascending order, and at each of them the value that a file has at the first position with this
instant, divided by the factor there where the field is stored before adjustment.
-/

namespace MarketBars

namespace FeatureSeries

theorem isNaN_of_at? {s : FeatureSeries} {p : Nat} {v : Binary64} (h : s.at? p = some v) :
    v.isNaN = false := by
  simp only [at?] at h
  split at h
  · cases h
  · split at h
    · cases h
    · split at h
      · cases h
      · rename_i x _ hx
        cases h
        exact Binary32.isNaN_widen (by simpa using hx)

end FeatureSeries

namespace Archive

/-- The files of an instrument that are read for some fields, each of which ends at a position, and the file
of its factors. -/
structure Reads (a : Archive) (symbol : String) (fields : List String) (f : Frequency)
    (file : String → Option FeatureSeries) (factor? : Option FeatureSeries) : Prop where
  file_eq : ∀ field ∈ fields, a.feature symbol field f = .ok (file field)
  ends : ∀ field ∈ fields, ∀ s, file field = some s → s.Ends
  factor_eq : a.feature symbol factorField f = .ok factor?

/-- A position is not before the first value in the files of some fields, nor after the last one. -/
def Spans (file : String → Option FeatureSeries) (fields : List String) (p : Nat) : Prop :=
  (∃ field ∈ fields, ∃ s, file field = some s ∧ s.start ≤ p) ∧
    ∃ field ∈ fields, ∃ s, file field = some s ∧ p < s.start + s.values.size

/-- Of the positions between the first value and the last one, the first that carries an instant. -/
def IsFirst (calendar : Array Instant) (file : String → Option FeatureSeries) (fields : List String)
    (u : Instant) (p : Nat) : Prop :=
  Spans file fields p ∧ calendar[p]? = some u ∧ ∀ q < p, Spans file fields q → calendar[q]? ≠ some u

/-- A value divided by a factor. There is none without a factor, or where the quotient is a NaN. -/
def quotient? (value? factor? : Value) : Value :=
  value?.bind fun value => factor?.bind fun factor =>
    if (value.div factor).isNaN then none else some (value.div factor)

/-- The value of a field at a position: that of its file, divided by the factor if the field is stored before
adjustment and there are factors. -/
def shownAt? (field : String) (s : FeatureSeries) (factor? : Option FeatureSeries) (p : Nat) : Value :=
  match factor? with
  | some factor =>
    if field ∈ ["open", "high", "low", "close", "volume"] then quotient? (s.at? p) (factor.at? p)
    else s.at? p
  | none => s.at? p

/-- A table follows the calendar: its timestamps are the instants between two bounds at the positions that
some files span, each once and in order, and its values are those at the first such positions. -/
structure Follows (calendar : Array Instant) (start stop : Instant) (file : String → Option FeatureSeries)
    (fields : List String) (factor? : Option FeatureSeries) (t : Table) (ts : List Instant) : Prop where
  names_eq : t.names = fields.filter fun field => (file field).isSome
  stamps_eq : t.stamps = .ok ts
  ascending : ts.Pairwise (· < ·)
  mem_stamps : ∀ u, u ∈ ts ↔ start ≤ u ∧ u ≤ stop ∧ ∃ p, Spans file fields p ∧ calendar[p]? = some u
  values_eq : ∀ field ∈ fields, ∀ s, file field = some s → ∃ values, t.values? field = some values ∧
    values.length = ts.length ∧
    ∀ (i : Nat) u p, ts[i]? = some u → IsFirst calendar file fields u p →
      values[i]? = some (shownAt? field s factor? p)

section Files

variable {a : Archive} {symbol : String} {fields : List String} {f : Frequency}
  {file : String → Option FeatureSeries} {factor? : Option FeatureSeries} {field : String}
  {s : FeatureSeries} {p : Nat}

theorem isAdjusted_iff : isAdjusted field = true ↔ field ∈ ["open", "high", "low", "close", "volume"] := by
  constructor
  · intro h
    obtain ⟨price, hprice⟩ := Option.isSome_iff_exists.mp h
    rw [← PriceField.name_of_ofName? hprice]
    cases price <;> decide
  · intro h
    have hnames : ∀ name ∈ ["open", "high", "low", "close", "volume"], isAdjusted name = true := by decide
    exact hnames field h

theorem filter_adjustedAt? (s : FeatureSeries) (factor? : Option FeatureSeries) (p : Nat) :
    (s.adjustedAt? factor? p).filter (fun x => !x.isNaN) =
      match factor? with
      | some factor => quotient? (s.at? p) (factor.at? p)
      | none => s.at? p := by
  cases hvalue : s.at? p with
  | none => cases factor? <;> simp [FeatureSeries.adjustedAt?, hvalue, quotient?]
  | some value =>
    cases factor? with
    | none => simp [FeatureSeries.adjustedAt?, hvalue, FeatureSeries.isNaN_of_at? hvalue]
    | some factor =>
      cases hfactor : factor.at? p with
      | none => simp [FeatureSeries.adjustedAt?, hvalue, hfactor, quotient?]
      | some divisor =>
        cases hnan : (value.div divisor).isNaN <;>
          simp [FeatureSeries.adjustedAt?, hvalue, hfactor, quotient?, hnan, Option.filter]

/-- What a cell shows of the value of a field. -/
theorem filter_eq_shownAt? (field : String) (s : FeatureSeries) (factor? : Option FeatureSeries) (p : Nat) :
    (s.adjustedAt? (if isAdjusted field then factor? else none) p).filter (fun x => !x.isNaN) =
      shownAt? field s factor? p := by
  rw [filter_adjustedAt?]
  cases factor? with
  | none =>
    rw [ite_self]
    rfl
  | some factor =>
    by_cases hfield : isAdjusted field = true
    · rw [if_pos hfield, shownAt?, if_pos (isAdjusted_iff.mp hfield)]
    · rw [if_neg hfield, shownAt?, if_neg fun hmem => hfield (isAdjusted_iff.mpr hmem)]

def filesOf (file : String → Option FeatureSeries) (fields : List String) :
    List (String × Option FeatureSeries) :=
  fields.map fun field => (field, file field)

theorem Reads.featureFiles_eq (h : a.Reads symbol fields f file factor?) :
    a.featureFiles symbol fields f = .ok (filesOf file fields) := by
  rw [featureFiles, mapM_eq_ok_iff, filesOf, List.map_map]
  refine List.map_congr_left fun field hfield => ?_
  exact bind_eq_ok_iff.mpr ⟨file field, h.file_eq field hfield, rfl⟩

theorem mem_found_filesOf :
    (field, s) ∈ found (filesOf file fields) ↔ field ∈ fields ∧ file field = some s := by
  simp only [found, filesOf, List.filterMap_map, List.mem_filterMap, Function.comp_apply,
    Option.map_eq_some_iff, Prod.mk.injEq]
  constructor
  · rintro ⟨field', hfield, s', hs, rfl, rfl⟩
    exact ⟨hfield, hs⟩
  · rintro ⟨hfield, hs⟩
    exact ⟨field, hfield, s, hs, rfl, rfl⟩

theorem map_fst_found_filesOf :
    (found (filesOf file fields)).map Prod.fst = fields.filter fun field => (file field).isSome := by
  induction fields with
  | nil => rfl
  | cons field rest ih =>
    rw [found, filesOf] at ih ⊢
    cases hfile : file field with
    | none => simpa [hfile] using ih
    | some s => simpa [hfile] using ih

theorem lacking_filesOf :
    lacking (filesOf file fields) = fields.filter fun field => (file field).isNone := by
  rw [lacking, filesOf, List.filter_map, List.map_map]
  exact List.map_id _

theorem found_filesOf_eq_nil_iff :
    found (filesOf file fields) = [] ↔ ∀ field ∈ fields, file field = none := by
  rw [← List.map_eq_nil_iff (f := Prod.fst), map_fst_found_filesOf, List.filter_eq_nil_iff]
  simp

/-- Some of the files that are found have a property when the file of some field has it. -/
theorem exists_series_iff {P : FeatureSeries → Prop} :
    (∃ s ∈ (found (filesOf file fields)).map Prod.snd, P s) ↔
      ∃ field ∈ fields, ∃ s, file field = some s ∧ P s := by
  constructor
  · rintro ⟨s, hs, hP⟩
    obtain ⟨⟨field, s⟩, hmem, rfl⟩ := List.mem_map.mp hs
    obtain ⟨hfield, hfile⟩ := mem_found_filesOf.mp hmem
    exact ⟨field, hfield, s, hfile, hP⟩
  · rintro ⟨field, hfield, s, hfile, hP⟩
    exact ⟨s, List.mem_map_of_mem (f := Prod.snd) (mem_found_filesOf.mpr ⟨hfield, hfile⟩), hP⟩

theorem Reads.exists_latestStop? (h : a.Reads symbol fields f file factor?) :
    ∃ last, FeatureSeries.latestStop? ((found (filesOf file fields)).map Prod.snd) = some last := by
  have hfits : a.Fits symbol fields f := by
    intro field hfield s hread
    exact h.ends field hfield s (Except.ok.inj ((h.file_eq field hfield).symm.trans hread))
  exact FeatureSeries.exists_latestStop?_iff.mpr ((fits_iff h.featureFiles_eq).mp hfits)

end Files

section Positions

variable {a : Archive} {symbol : String} {fields : List String} {f : Frequency}
  {file : String → Option FeatureSeries} {factor? : Option FeatureSeries} {calendar : Array Instant}
  {start stop u : Instant} {last p : Nat}

/-- The positions at which an instrument is looked at. -/
def positionsOf (file : String → Option FeatureSeries) (fields : List String) (calendar : Array Instant)
    (start stop : Instant) (last : Nat) : List Nat :=
  calendarPositions calendar start stop
    (FeatureSeries.earliestStart ((found (filesOf file fields)).map Prod.snd)) (min last calendar.size)

theorem mem_positionsOf_iff (hfound : found (filesOf file fields) ≠ [])
    (hlast : FeatureSeries.latestStop? ((found (filesOf file fields)).map Prod.snd) = some last) :
    p ∈ positionsOf file fields calendar start stop last ↔
      Spans file fields p ∧ ∃ u, calendar[p]? = some u ∧ start ≤ u ∧ u ≤ stop := by
  have hseries : (found (filesOf file fields)).map Prod.snd ≠ [] := by simpa using hfound
  rw [positionsOf, mem_calendarPositions_iff, Spans, FeatureSeries.earliestStart_le_iff hseries,
    exists_series_iff, Nat.lt_min, FeatureSeries.lt_latestStop?_iff hlast, exists_series_iff]
  -- The end is cut to the calendar, outside which there is no instant anyway.
  constructor
  · rintro ⟨hstart, ⟨hstop, -⟩, hin⟩
    exact ⟨⟨hstart, hstop⟩, hin⟩
  · rintro ⟨⟨hstart, hstop⟩, u, hu, hin⟩
    exact ⟨hstart, ⟨hstop, (Array.getElem?_eq_some_iff.mp hu).1⟩, u, hu, hin⟩

def instantsAt (calendar : Array Instant) (positions : List Nat) : List Instant :=
  positions.filterMap fun i => calendar[i]?

/-- The first of the instants with some milliseconds is at the first of the positions. -/
theorem getElem?_findIdx_instantsAt {positions : List Nat} (hascending : positions.Pairwise (· < ·))
    (hpositions : ∀ i ∈ positions, ∃ t, calendar[i]? = some t)
    (hnano : ∀ t ∈ calendar, t.time.nano = 0) (hmem : p ∈ positions) (hp : calendar[p]? = some u)
    (hfirst : ∀ q < p, q ∈ positions → calendar[q]? ≠ some u) :
    positions[(instantsAt calendar positions).findIdx fun v => v.millis = u.millis]? = some p := by
  have hsame : ∀ v ∈ calendar, v.millis = u.millis → v = u := by
    intro v hv hmillis
    have hread := Instant.ofMillis?_millis (hnano v hv)
    rw [hmillis, Instant.ofMillis?_millis (hnano u (Array.mem_of_getElem? hp))] at hread
    exact (Option.some.inj hread).symm
  -- Every position has its instant, so both lists are searched in step.
  have hindex : (instantsAt calendar positions).findIdx? (fun v => v.millis = u.millis) =
      positions.findIdx? fun q => calendar[q]?.any fun v => decide (v.millis = u.millis) := by
    have hmap := congrArg (List.findIdx? fun v? => v?.any fun v : Instant => decide (v.millis = u.millis))
      (map_eq_map_some_filterMap hpositions)
    rw [List.findIdx?_map, List.findIdx?_map] at hmap
    exact hmap.symm
  obtain ⟨k, hk, hget⟩ := List.getElem_of_mem hmem
  have hfound : positions.findIdx? (fun q => calendar[q]?.any fun v => decide (v.millis = u.millis)) =
      some k := by
    refine List.findIdx?_eq_some_iff_getElem.mpr ⟨hk, ?_, ?_⟩
    · rw [hget, hp]
      exact decide_eq_true rfl
    · intro j hj htest
      obtain ⟨v, hv, hmillis⟩ := (Option.any_eq_true _ _).mp htest
      have hlt := List.pairwise_iff_getElem.mp hascending j k (by omega) hk hj
      rw [hget] at hlt
      have hv' := hsame v (Array.mem_of_getElem? hv) (of_decide_eq_true hmillis)
      exact hfirst _ hlt (List.getElem_mem _) (hv' ▸ hv)
  have hplace := (List.findIdx?_eq_some_iff_findIdx_eq.mp (hindex.trans hfound)).2
  rw [hplace, List.getElem?_eq_getElem hk, hget]

end Positions

section Load

variable {a : Archive} {symbol : String} {fields : List String} {f : Frequency}
  {file : String → Option FeatureSeries} {factor? : Option FeatureSeries} {calendar : Array Instant}
  {start stop : Instant}

/-- An instrument with a file is loaded, and its table has the first row of every timestamp. -/
theorem Reads.exists_firstRows (h : a.Reads symbol fields f file factor?) (hfields : fields.Nodup)
    (hstamp : Table.stampName ∉ fields) (hfound : found (filesOf file fields) ≠ []) {last : Nat}
    (hlast : FeatureSeries.latestStop? ((found (filesOf file fields)).map Prod.snd) = some last) :
    ∃ t millis, a.load symbol fields f calendar start stop =
        .ok (some (t, fields.filter fun field => (file field).isNone)) ∧
      Table.FirstRows (instantsAt calendar (positionsOf file fields calendar start stop last))
        (columnsAt (positionsOf file fields calendar start stop last) (found (filesOf file fields))
          factor?) millis t := by
  obtain ⟨t, ht⟩ := exists_ofColumns_columnsAt hfields hstamp h.featureFiles_eq
    (@exists_of_mem_calendarPositions calendar start stop
      (FeatureSeries.earliestStart ((found (filesOf file fields)).map Prod.snd))
      (min last calendar.size)) factor?
  obtain ⟨millis, hrows⟩ := Table.exists_firstRows ht
  refine ⟨t.dedupFirst, millis, ?_, hrows⟩
  rw [load_of_latestStop? h.featureFiles_eq hfound h.factor_eq hlast, tableAt_eq, ht, ← lacking_filesOf]
  rfl

theorem mem_instantsAt_positionsOf (hfound : found (filesOf file fields) ≠ []) {last : Nat}
    (hlast : FeatureSeries.latestStop? ((found (filesOf file fields)).map Prod.snd) = some last)
    {u : Instant} :
    u ∈ instantsAt calendar (positionsOf file fields calendar start stop last) ↔
      start ≤ u ∧ u ≤ stop ∧ ∃ p, Spans file fields p ∧ calendar[p]? = some u := by
  rw [instantsAt, List.mem_filterMap]
  constructor
  · rintro ⟨p, hp, hu⟩
    obtain ⟨hspans, v, hv, hin⟩ := (mem_positionsOf_iff hfound hlast).mp hp
    cases hu.symm.trans hv
    exact ⟨hin.1, hin.2, p, hspans, hu⟩
  · rintro ⟨hstart, hstop, p, hspans, hu⟩
    exact ⟨p, (mem_positionsOf_iff hfound hlast).mpr ⟨hspans, u, hu, hstart, hstop⟩, hu⟩

/-- The rows of an instrument follow the calendar, if it is one of whole seconds without leap seconds. -/
theorem follows_of_firstRows (hnano : ∀ u ∈ calendar, u.time.nano = 0)
    (hfound : found (filesOf file fields) ≠ []) {last : Nat}
    (hlast : FeatureSeries.latestStop? ((found (filesOf file fields)).map Prod.snd) = some last)
    {t : Table} {millis : List Int}
    (hrows : Table.FirstRows (instantsAt calendar (positionsOf file fields calendar start stop last))
      (columnsAt (positionsOf file fields calendar start stop last) (found (filesOf file fields))
        factor?) millis t) :
    ∃ ts, Follows calendar start stop file fields factor? t ts := by
  have hinstants : ∀ u ∈ instantsAt calendar (positionsOf file fields calendar start stop last),
      u.time.nano = 0 := by
    intro u hu
    obtain ⟨p, -, hp⟩ := List.mem_filterMap.mp hu
    exact hnano u (Array.mem_of_getElem? hp)
  obtain ⟨ts, hts, hascending⟩ := hrows.ascends.exists_stamps fun r hr => by
    rw [hrows.rows_eq] at hr
    obtain ⟨ms, hms, rfl⟩ := List.mem_map.mp hr
    obtain ⟨u, hu, rfl⟩ := (hrows.mem_millis ms).mp hms
    exact ⟨u, by rw [hinstants u hu]; decide, rfl⟩
  have hnames : t.names = fields.filter fun field => (file field).isSome := by
    rw [hrows.names_eq, names_columnsAt, map_fst_found_filesOf]
  refine ⟨ts, hnames, hts, hascending, fun u => ?_, fun field hfield s hs => ?_⟩
  · rw [hrows.mem_stamps_iff hts hinstants, mem_instantsAt_positionsOf hfound hlast]
  · have hcolumn := List.mem_map_of_mem (f := fun e : String × FeatureSeries =>
      (e.1, (positionsOf file fields calendar start stop last).map
        (e.2.adjustedAt? (if isAdjusted e.1 then factor? else none))))
      (mem_found_filesOf.mpr ⟨hfield, hs⟩)
    refine ⟨_, hrows.values?_eq hts hcolumn, List.length_map _, ?_⟩
    rintro i u p hu ⟨hspans, hp, hfirst⟩
    have hin := (hrows.mem_stamps_iff hts hinstants).mp (List.mem_of_getElem? hu)
    obtain ⟨hstart, hstop, -⟩ := (mem_instantsAt_positionsOf hfound hlast).mp hin
    -- The row of an instant is at the first position that carries it.
    have hplace : (positionsOf file fields calendar start stop last)[(instantsAt calendar
        (positionsOf file fields calendar start stop last)).findIdx fun v => v.millis = u.millis]? =
          some p :=
      getElem?_findIdx_instantsAt pairwise_calendarPositions exists_of_mem_calendarPositions hnano
        ((mem_positionsOf_iff hfound hlast).mpr ⟨hspans, u, hp, hstart, hstop⟩) hp
        fun q hq hmem => hfirst q hq ((mem_positionsOf_iff hfound hlast).mp hmem).1
    rw [List.getElem?_map, hu, Option.map_some, List.getElem?_map, hplace, Option.map_some,
      Option.join_some, filter_eq_shownAt?]

/-- The table of an instrument follows the calendar. There is one when some requested field has a file; the
others are missing. -/
theorem load_aligns (h : a.Reads symbol fields f file factor?) (hnano : ∀ u ∈ calendar, u.time.nano = 0)
    (hfields : fields.Nodup) (hstamp : Table.stampName ∉ fields) (start stop : Instant) :
    (a.load symbol fields f calendar start stop = .ok none ↔ ∀ field ∈ fields, file field = none) ∧
    ((∃ field ∈ fields, file field ≠ none) → ∃ t ts,
      a.load symbol fields f calendar start stop =
        .ok (some (t, fields.filter fun field => (file field).isNone)) ∧
      Follows calendar start stop file fields factor? t ts) := by
  have hloads : (∃ field ∈ fields, file field ≠ none) → ∃ t ts,
      a.load symbol fields f calendar start stop =
        .ok (some (t, fields.filter fun field => (file field).isNone)) ∧
      Follows calendar start stop file fields factor? t ts := by
    rintro ⟨field, hfield, hfile⟩
    have hfound : found (filesOf file fields) ≠ [] :=
      fun hnil => hfile (found_filesOf_eq_nil_iff.mp hnil field hfield)
    obtain ⟨last, hlast⟩ := h.exists_latestStop?
    obtain ⟨t, millis, ht, hrows⟩ := h.exists_firstRows hfields hstamp hfound hlast
    obtain ⟨ts, hfollows⟩ := follows_of_firstRows hnano hfound hlast hrows
    exact ⟨t, ts, ht, hfollows⟩
  refine ⟨⟨fun hnone field hfield => ?_, fun hnone => ?_⟩, hloads⟩
  · cases hfile : file field with
    | none => rfl
    | some s =>
      obtain ⟨t, ts, ht, -⟩ := hloads ⟨field, hfield, by simp [hfile]⟩
      rw [hnone] at ht
      cases ht
  · exact load_of_not_found h.featureFiles_eq (found_filesOf_eq_nil_iff.mpr hnone)

/-- The second of two days, the first one, and the second once more. -/
def shuffledDays : Array Instant :=
  #[.startOf .afterNewYear, .startOf .newYear, .startOf .afterNewYear]

/-- A file of closing prices, a file of turnovers that begins one position later, and a factor. -/
def staggered (field : String) : Option FeatureSeries :=
  if field = "close" then some ⟨0, #[.ofNat 10, .ofNat 11]⟩
  else if field = "turnover" then some ⟨1, #[.ofNat 5, .ofNat 6]⟩
  else if field = "factor" then some ⟨1, #[.ofNat 2]⟩
  else none

def staggeredArchive : Archive where
  calendar _ := .ok shuffledDays.toList
  constituents _ := .ok []
  feature _ field _ := .ok (staggered field)

/-- The two days come in order and once. The first has its price divided by the factor, the second has no
price, for there is no factor at the position at which it comes first. -/
theorem load_aligns_staggered :
    ∃ t ts closes, staggeredArchive.load "A" ["close", "volume", "turnover"] .daily shuffledDays
        (.startOf .newYear) (.startOf .afterNewYear) = .ok (some (t, ["volume"])) ∧
      t.names = ["close", "turnover"] ∧ t.stamps = .ok ts ∧ ts.Pairwise (· < ·) ∧
      t.values? "close" = some closes ∧
      ∀ i : Nat,
        (ts[i]? = some (.startOf .newYear) → closes[i]? = some
          (quotient? (some (Binary32.ofNat 11).widen) (some (Binary32.ofNat 2).widen))) ∧
        (ts[i]? = some (.startOf .afterNewYear) → closes[i]? = some none) := by
  have hreads : staggeredArchive.Reads "A" ["close", "volume", "turnover"] .daily staggered
      (some ⟨1, #[.ofNat 2]⟩) := by
    refine ⟨fun _ _ => rfl, ?_, rfl⟩
    intro field hfield s hs
    have hends : ∀ field ∈ ["close", "volume", "turnover"],
        ((staggered field).all fun s => decide s.Ends) = true := by decide
    have hall := hends field hfield
    rw [hs] at hall
    exact of_decide_eq_true hall
  have hnano : ∀ u ∈ shuffledDays, u.time.nano = 0 := by decide
  obtain ⟨t, ts, ht, hfollows⟩ := (load_aligns hreads hnano (by decide) (by decide) (.startOf .newYear)
    (.startOf .afterNewYear)).2 ⟨"close", by decide, by decide⟩
  obtain ⟨closes, hcloses, -, hvalues⟩ := hfollows.values_eq "close" (by decide) _ rfl
  have hspans : ∀ p < 2, Spans staggered ["close", "volume", "turnover"] p := by
    intro p hp
    exact ⟨⟨"close", by decide, _, rfl, Nat.zero_le p⟩, "close", by decide, _, rfl, hp⟩
  refine ⟨t, ts, closes, ht, hfollows.names_eq, hfollows.stamps_eq, hfollows.ascending, hcloses, ?_⟩
  intro i
  constructor
  · intro hi
    have hother : shuffledDays[0]? ≠ some (.startOf .newYear) := by decide
    refine hvalues i _ 1 hi ⟨hspans 1 (by decide), rfl, fun q hq _ => ?_⟩
    obtain rfl : q = 0 := by omega
    exact hother
  · intro hi
    exact hvalues i _ 0 hi ⟨hspans 0 (by decide), rfl, fun q hq _ => absurd hq (Nat.not_lt_zero q)⟩

end Load

end Archive

end MarketBars
