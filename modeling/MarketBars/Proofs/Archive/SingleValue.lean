import MarketBars.Proofs.Archive.Loading
import MarketBars.Proofs.Calendar.Order

namespace MarketBars

/-- Some archive has something for the settings: they name a frequency, an instrument and a field, and
the first of their days is not the last one of the calendar. -/
structure ArchiveSettings.Loadable (settings : ArchiveSettings) : Prop where
  frequency : ∃ f, frequencySetting settings.frequency = .ok f
  named : settings.tickerList ≠ []
  field : ∃ name ∈ settings.fields, name ≠ Table.stampName
  ordered : settings.start ≤ settings.stop
  next : settings.start.day < lastDay

def Binary32.one : Binary32 := ⟨0x3f800000⟩

def Binary32.two : Binary32 := ⟨0x40000000⟩

/-- An archive in which every instrument has one file, that of one field, with one value for the first
day of some settings. Where the value shows tells what the settings do to the columns. -/
def Archive.ofValue (settings : ArchiveSettings) (field : String) (v : Binary32) : Archive where
  calendar _ := .ok [.startOf settings.start]
  constituents _ := .ok [⟨"A", settings.start, settings.stop⟩]
  feature _ name _ := .ok (if name = field then some ⟨0, #[v]⟩ else none)

namespace Table

/-- The table holds a single value, in the column of a field and stamped with the beginning of a day. -/
structure Holds (t : Table) (field : String) (day : Date) (v : Binary64) : Prop where
  names_eq : t.names = [field]
  rows_eq : t.rows = [⟨.moment (Instant.startOf day).millis, [.number v]⟩]

/-- However the table is cut around the beginning of a day, the day is all that is left, and there is a
value for it under a name. -/
def ShowsOn (t : Table) (day : Date) (name : String) (value : Value) : Prop :=
  ∀ start stop : Instant, start.millis ≤ (Instant.startOf day).millis →
    (Instant.startOf day).millis ≤ stop.millis →
      (t.within start stop).stamps = .ok [.startOf day] ∧
        Cube.valueAt (t.within start stop) (.startOf day) name = value

namespace Holds

variable {t : Table} {field : String} {day : Date} {v : Binary64}

theorem within (h : t.Holds field day v) {start stop : Instant}
    (hstart : start.millis ≤ (Instant.startOf day).millis)
    (hstop : (Instant.startOf day).millis ≤ stop.millis) : (t.within start stop).Holds field day v := by
  refine ⟨h.names_eq, ?_⟩
  have hin : Row.isWithin start stop ⟨.moment (Instant.startOf day).millis, [.number v]⟩ = true := by
    show (decide (start.millis ≤ (Instant.startOf day).millis) &&
      decide ((Instant.startOf day).millis ≤ stop.millis)) = true
    rw [decide_eq_true hstart, decide_eq_true hstop]
    rfl
  show t.rows.filter (Row.isWithin start stop) = _
  rw [h.rows_eq, List.filter_cons_of_pos hin, List.filter_nil]

theorem stamps_eq (h : t.Holds field day v) : t.stamps = .ok [.startOf day] := by
  rw [stamps_eq_ok_iff, h.rows_eq]
  exact congrArg (fun d => [d]) (Instant.ofMillis?_startOf day)

/-- Besides the timestamps and the field there is nothing to read. -/
theorem valueAt_eq (h : t.Holds field day v) (hv : v.isNaN = false) (name : String) :
    Cube.valueAt t (.startOf day) name =
      if name = stampName then some (.ofInt (Instant.startOf day).millis)
      else if name = field then some v else none := by
  have hlast : Cube.lastRowAt t (.startOf day) =
      some ⟨.moment (Instant.startOf day).millis, [.number v]⟩ := by
    have hsome : (⟨.moment (Instant.startOf day).millis, [.number v]⟩ : Row).instant? =
        some (.startOf day) := Instant.ofMillis?_startOf day
    rw [Cube.lastRowAt, h.rows_eq, List.reverse_singleton]
    exact List.find?_cons_of_pos (decide_eq_true hsome)
  by_cases hname : name = stampName
  · have hhas : t.hasName name = true := by
      rw [hasName, hname, beq_self_eq_true, Bool.true_or]
    rw [if_pos hname, Cube.valueAt, hhas, if_pos rfl, hlast, Option.bind_some, cellNamed, if_pos hname]
    rfl
  · rw [if_neg hname]
    by_cases hfield : name = field
    · have hmem : name ∈ t.names := by
        rw [h.names_eq, hfield]
        exact List.mem_singleton_self field
      have hposition : t.names.idxOf name = 0 := by
        rw [h.names_eq, hfield, List.idxOf_cons_self]
      rw [if_pos hfield, Cube.valueAt, hasName_of_ne hname, if_pos (decide_eq_true hmem), hlast,
        Option.bind_some, cellNamed_of_ne hname, hposition]
      show (if v.isNaN then none else some v) = some v
      rw [hv]
      rfl
    · rw [if_neg hfield]
      refine valueAt_of_not_mem ?_ hname _
      rw [h.names_eq, List.mem_singleton]
      exact hfield

theorem showsOn (h : t.Holds field day v) (hv : v.isNaN = false) (name : String) :
    t.ShowsOn day name (if name = stampName then some (.ofInt (Instant.startOf day).millis)
      else if name = field then some v else none) := by
  intro start stop hstart hstop
  have hin := h.within hstart hstop
  exact ⟨hin.stamps_eq, hin.valueAt_eq hv name⟩

/-- A table of copies shows the value under every name that has an origin, for there is one column. -/
theorem showsOn_of_copies (h : t.Holds field day v) (hv : v.isNaN = false) {origin : Origin} {u : Table}
    (hcopies : t.Copies origin u) {name : String} (hname : name ≠ stampName) :
    u.ShowsOn day name ((origin name).map fun _ => v) := by
  intro start stop hstart hstop
  have hwithin := hcopies.within start stop
  have hin := h.within hstart hstop
  refine ⟨hwithin.stamps_eq.trans hin.stamps_eq, ?_⟩
  rw [hwithin.valueAt_eq hname]
  cases horigin : origin name with
  | none => rfl
  | some source =>
    have hmem : source ∈ t.names := hcopies.source_mem name source horigin
    have hsource : source = field := by
      rw [h.names_eq] at hmem
      exact List.mem_singleton.mp hmem
    rw [Option.bind_some, hin.valueAt_eq hv, if_neg (ne_stampName hmem), if_pos hsource]
    rfl

end Holds

end Table

namespace Archive

/-- Of distinct fields, only the one that has a file is found. -/
theorem found_single {fields : List String} (hfields : fields.Nodup) {field : String}
    (hfield : field ∈ fields) (s : FeatureSeries) :
    found (fields.map fun name => (name, if name = field then some s else none)) = [(field, s)] := by
  have hnone : ∀ names : List String, field ∉ names →
      found (names.map fun name => (name, if name = field then some s else none)) = [] := by
    intro names hnames
    rw [found, List.filterMap_map, List.filterMap_eq_nil_iff]
    intro name hname
    have hne : name ≠ field := fun heq => hnames (heq ▸ hname)
    show Option.map _ (if name = field then some s else none) = none
    rw [if_neg hne, Option.map_none]
  induction fields with
  | nil => cases hfield
  | cons name rest ih =>
    obtain ⟨hname, hrest⟩ := List.nodup_cons.mp hfields
    by_cases heq : name = field
    · have hempty := hnone rest (heq ▸ hname)
      rw [found] at hempty
      rw [found, List.map_cons, List.filterMap_cons, hempty, heq, if_pos rfl]
      rfl
    · have hmem : field ∈ rest := (List.mem_cons.mp hfield).resolve_left (Ne.symm heq)
      rw [found, List.map_cons, List.filterMap_cons, if_neg heq]
      exact ih hrest hmem

/-- The table of a calendar of one day holds the value of the field. -/
theorem exists_tableAt {field : String} (hstamp : field ≠ Table.stampName) (day : Date) (v : Binary32)
    (hv : v.isNaN = false) {factor? : Option FeatureSeries}
    (hfactor : isAdjusted field = true → factor? = none) :
    ∃ t, tableAt #[.startOf day] [0] [(field, ⟨0, #[v]⟩)] factor? = .ok t ∧
      t.Holds field day v.widen := by
  have hvalue : (⟨0, #[v]⟩ : FeatureSeries).adjustedAt? (if isAdjusted field then factor? else none) 0 =
      some v.widen := by
    have hraw : (⟨0, #[v]⟩ : FeatureSeries).at? 0 = some v.widen := by
      show (if v.isNaN then none else some v.widen) = some v.widen
      rw [hv]
      rfl
    have hplain : (if isAdjusted field then factor? else none) = none := by
      split
      · rename_i hadjusted
        exact hfactor hadjusted
      · rfl
    rw [FeatureSeries.adjustedAt?, hraw, hplain]
    rfl
  have hcolumns : [(field, ([0] : List Nat).map ((⟨0, #[v]⟩ : FeatureSeries).adjustedAt?
      (if isAdjusted field then factor? else none)))] = [(field, [some v.widen])] := by
    rw [List.map_singleton, hvalue]
  obtain ⟨t, ht, hnames, hrows⟩ := @Table.exists_ofColumns [.startOf day] [(field, [some v.widen])]
    (by simp) (by simp) (by simpa using hstamp.symm)
  refine ⟨t.dedupFirst, ?_, hnames, ?_⟩
  · show (Table.ofColumns [.startOf day] [(field, ([0] : List Nat).map _)] >>= fun table =>
      pure table.dedupFirst) = _
    rw [hcolumns, ht]
    rfl
  · have hrow : distinctBy (fun r : Row => r.stamp.rank?) t.rows =
        [⟨.moment (Instant.startOf day).millis, [.number v.widen]⟩] := by
      rw [hrows]
      rfl
    show (distinctBy (fun r : Row => r.stamp.rank?) t.rows).mergeSort _ = _
    rw [hrow, List.mergeSort_singleton]

/-- The table of any instrument between two instants around the day holds the value of the field. -/
theorem load_ofValue {settings : ArchiveSettings} {fields : List String} (hfields : fields.Nodup)
    {field : String} (hfield : field ∈ fields) (hstamp : field ≠ Table.stampName) {v : Binary32}
    (hv : v.isNaN = false) (symbol : String) (f : Frequency) {start stop : Instant}
    (hstart : start ≤ .startOf settings.start) (hstop : Instant.startOf settings.start ≤ stop) :
    ∃ t missing, (ofValue settings field v).load symbol fields f #[.startOf settings.start] start stop =
        .ok (some (t, missing)) ∧ t.Holds field settings.start v.widen := by
  let files := fields.map fun name =>
    (name, if name = field then some (⟨0, #[v]⟩ : FeatureSeries) else none)
  let factor? := if factorField = field then some (⟨0, #[v]⟩ : FeatureSeries) else none
  have hfiles : (ofValue settings field v).featureFiles symbol fields f = .ok files := by
    rw [featureFiles, mapM_eq_ok_iff, List.map_map]
    rfl
  have hfound : found files = [(field, ⟨0, #[v]⟩)] := found_single hfields hfield _
  have hfactor : isAdjusted field = true → factor? = none := by
    intro hadjusted
    refine if_neg fun heq => ?_
    rw [← heq] at hadjusted
    exact absurd hadjusted (by decide)
  obtain ⟨t, ht, hholds⟩ := exists_tableAt hstamp settings.start v hv hfactor
  -- The calendar has one position, and it lies between the two instants.
  have hpositions : calendarPositions #[.startOf settings.start] start stop 0 1 = [0] := by
    show [0].filter _ = [0]
    refine List.filter_eq_self.mpr fun i hi => ?_
    rw [List.mem_singleton.mp hi]
    show (decide (start ≤ .startOf settings.start) &&
      decide (Instant.startOf settings.start ≤ stop)) = true
    rw [decide_eq_true hstart, decide_eq_true hstop]
    rfl
  have hlast : FeatureSeries.latestStop? [⟨0, #[v]⟩] = some 1 := by
    have hone : 0 + 1 ≤ Binary32.maxIndex := by decide
    have hstop : (⟨0, #[v]⟩ : FeatureSeries).stop? = some 1 := if_pos hone
    rw [FeatureSeries.latestStop?, List.mapM_cons, hstop]
    rfl
  have htable : tableAt #[.startOf settings.start]
      (calendarPositions #[.startOf settings.start] start stop 0 1) [(field, ⟨0, #[v]⟩)] factor? =
        .ok t := by
    rw [hpositions]
    exact ht
  refine ⟨t, lacking files, ?_, hholds⟩
  apply bind_eq_ok_iff.mpr
  refine ⟨files, liftError_eq_ok_iff.mpr hfiles, ?_⟩
  have hsome : ¬ (found files).isEmpty = true := by
    rw [hfound]
    exact Bool.false_ne_true
  refine (if_neg hsome).trans ?_
  apply bind_eq_ok_iff.mpr
  refine ⟨factor?, rfl, bind_eq_ok_iff.mpr ⟨1, ?_, bind_eq_ok_iff.mpr ⟨t, ?_, rfl⟩⟩⟩
  · rw [hfound]
    exact congrArg Fault.positionRange.orElse hlast
  · apply liftError_eq_ok_iff.mpr
    rw [hfound]
    exact htable

end Archive

namespace Snapshot

/-- In an archive with a single value, an index stands for one stock. -/
theorem expansion_ofValue {settings : ArchiveSettings} (h : settings.start ≤ settings.stop)
    (field : String) (v : Binary32) (ticker : Ticker) :
    expansion (.ofValue settings field v) settings.start settings.stop ticker =
      .ok (ticker, if ticker.kind = .index then [.stock "A"] else [ticker]) := by
  unfold expansion
  by_cases hkind : ticker.kind = .index
  · have hoverlaps : (⟨"A", settings.start, settings.stop⟩ : InstrumentSpan).overlaps settings.start
        settings.stop = true := by
      show (decide (settings.start ≤ settings.stop) && decide (settings.start ≤ settings.stop)) = true
      rw [decide_eq_true h]
      rfl
    have hlisted : listed (.ofValue settings field v) settings.start settings.stop ticker =
        .ok [.stock "A"] := by
      have hspans : [(⟨"A", settings.start, settings.stop⟩ : InstrumentSpan)].filter (fun span =>
          span.overlaps settings.start settings.stop) = [⟨"A", settings.start, settings.stop⟩] :=
        List.filter_cons_of_pos hoverlaps
      refine bind_eq_ok_iff.mpr ⟨_, rfl, ?_⟩
      rw [hspans]
      rfl
    rw [if_pos hkind, if_pos hkind, hlisted]
    rfl
  · rw [if_neg hkind, if_neg hkind]

/-- Settings that name a ticker name an instrument, whatever the indices stand for. -/
theorem exists_instrument {tickers : List Ticker} (h : tickers ≠ []) {stocks : Ticker → List Ticker}
    (hstocks : ∀ ticker, stocks ticker ≠ []) :
    ∃ first rest, distinctTickers (((distinctTickers tickers).map fun ticker =>
      (ticker, stocks ticker)).flatMap Prod.snd) = first :: rest := by
  have hdistinct : ∀ ts : List Ticker, ts ≠ [] → ∃ ticker, ticker ∈ distinctTickers ts := by
    intro ts hts
    obtain ⟨named, hnamed⟩ := List.exists_mem_of_ne_nil _ hts
    have hkey := (mem_map_distinctBy Ticker.symbol ts named.symbol).mpr (List.mem_map_of_mem hnamed)
    obtain ⟨ticker, hticker, -⟩ := List.mem_map.mp hkey
    exact ⟨ticker, hticker⟩
  obtain ⟨ticker, hticker⟩ := hdistinct tickers h
  obtain ⟨stock, hstock⟩ := List.exists_mem_of_ne_nil _ (hstocks ticker)
  have hinstrument : stock ∈ ((distinctTickers tickers).map fun ticker =>
      (ticker, stocks ticker)).flatMap Prod.snd :=
    List.mem_flatMap.mpr ⟨_, List.mem_map_of_mem hticker, hstock⟩
  obtain ⟨instrument, hmem⟩ := hdistinct _ (List.ne_nil_of_mem hinstrument)
  exact List.exists_cons_of_ne_nil (List.ne_nil_of_mem hmem)

/-- All that is loaded from an archive with a single value is one table, and there is something. -/
theorem exists_gather_ofValue {settings : ArchiveSettings} (h : settings.Loadable) {field : String}
    (hfield : field ∈ settings.fields) (hstamp : field ≠ Table.stampName) {v : Binary32}
    (hv : v.isNaN = false) :
    ∃ got first rest t missing, gather (.ofValue settings field v) settings (.startOf settings.start)
        ⟨settings.stop, .lastSecond⟩ = .ok got ∧
      got.loaded = (first :: rest).map (fun ticker => (ticker, some (t, missing))) ∧
        t.Holds field settings.start v.widen := by
  obtain ⟨f, hf⟩ := h.frequency
  let stocks := fun ticker : Ticker => if ticker.kind = .index then [Ticker.stock "A"] else [ticker]
  let expansions := (distinctTickers settings.tickerList).map fun ticker => (ticker, stocks ticker)
  have hexpansions : (distinctTickers settings.tickerList).mapM (expansion
      (.ofValue settings field v) settings.start settings.stop) = .ok expansions := by
    rw [mapM_eq_ok_iff, List.map_map]
    exact List.map_congr_left fun ticker _ => expansion_ofValue h.ordered field v ticker
  have hstocks : ∀ ticker, stocks ticker ≠ [] := by
    intro ticker
    show (if ticker.kind = .index then [Ticker.stock "A"] else [ticker]) ≠ []
    split <;> exact List.cons_ne_nil _ _
  obtain ⟨first, rest, hinstruments⟩ := exists_instrument h.named hstocks
  have hnodup : (distinctBy id settings.fields).Nodup := by
    simpa using nodup_map_distinctBy id settings.fields
  have hmem : field ∈ distinctBy id settings.fields := by
    simpa [hfield] using mem_map_distinctBy id settings.fields field
  have hbounds := Instant.startOf_le_lastSecond h.ordered
  obtain ⟨t, missing, ht, hholds⟩ := Archive.load_ofValue hnodup hmem hstamp hv "A" f
    (Int.le_refl _ : Instant.startOf settings.start ≤ _) hbounds
  have hloaded : loadAll (.ofValue settings field v) (distinctBy id settings.fields) f
      #[.startOf settings.start] (.startOf settings.start) ⟨settings.stop, .lastSecond⟩
        (first :: rest) = .ok ((first :: rest).map fun ticker => (ticker, some (t, missing))) := by
    rw [loadAll, mapM_eq_ok_iff, List.map_map]
    refine List.map_congr_left fun ticker _ => ?_
    -- The files do not depend on the instrument.
    exact bind_eq_ok_iff.mpr ⟨some (t, missing), ht, rfl⟩
  let members := (expansions.filter fun e => e.1.kind == .index).map fun e =>
    (e.1.symbol, distinctTickers e.2)
  refine ⟨⟨f, distinctTickers settings.tickerList, members, _⟩, first, rest, t, missing, ?_, rfl,
    hholds⟩
  have hgathers : Gathers (.ofValue settings field v) settings (.startOf settings.start)
      ⟨settings.stop, .lastSecond⟩ ⟨f, distinctTickers settings.tickerList, members,
        (first :: rest).map fun ticker => (ticker, some (t, missing))⟩ expansions
        [.startOf settings.start] := by
    refine ⟨hf, rfl, hexpansions, rfl, ?_, rfl⟩
    rw [hinstruments]
    exact hloaded
  exact hgathers.gather_eq

/-- The archive can be loaded with the mappings and without, and has a table with the value. -/
theorem exists_load_ofValue {settings : ArchiveSettings} (h : settings.Loadable) {field : String}
    (hfield : field ∈ settings.fields) (hstamp : field ≠ Table.stampName) {v : Binary32}
    (hv : v.isNaN = false) :
    ∃ raw mapped symbol t, (load (.ofValue settings field v) settings.unmapped).result = .ok raw ∧
      (load (.ofValue settings field v) settings).result = .ok mapped ∧
        raw.table? symbol = some t ∧ t.Holds field settings.start v.widen := by
  obtain ⟨got, first, rest, t, missing, hgot, hloaded, hholds⟩ :=
    exists_gather_ofValue h hfield hstamp hv
  have hbare : bareTables got.loaded = (first, t) :: rest.map fun ticker => (ticker, t) := by
    rw [bareTables, hloaded, List.filterMap_map, List.filterMap_cons]
    refine congrArg (List.cons (first, t)) ?_
    rw [← List.filterMap_eq_map]
    rfl
  have hsome : bareTables got.loaded ≠ [] := by
    rw [hbare]
    exact List.cons_ne_nil _ _
  have hgot' : gather (.ofValue settings field v) settings.unmapped (.startOf settings.unmapped.start)
      ⟨settings.unmapped.stop, .lastSecond⟩ = .ok got := hgot
  obtain ⟨raw, hraw⟩ := exists_load hgot' hsome
  obtain ⟨mapped, hmapped⟩ := exists_load hgot hsome
  refine ⟨raw, mapped, first.symbol, t, hraw, hmapped, ?_, hholds⟩
  obtain ⟨got'', hgot'', htables, -⟩ := of_load hraw
  cases hgot'.symm.trans hgot''
  have htables' := Except.ok.inj ((loadedTables_nil got.loaded).symm.trans htables)
  have hfirst : (first.symbol == first.symbol) = true := beq_self_eq_true _
  rw [table?, ← htables', hbare]
  exact congrArg (Option.map Prod.snd) (List.find?_cons_of_pos hfirst)

end Snapshot

end MarketBars
