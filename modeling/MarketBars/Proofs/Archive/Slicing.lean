import MarketBars.Proofs.Archive.NonDisclosure
import MarketBars.Proofs.Files.Walk

/-!
# A slice of a snapshot

A snapshot is loaded for a range of days, and a request takes a slice of it. The rows of an instrument are
chosen twice on this way: by the order of instants when the instrument is loaded, and by milliseconds when
the slice is taken. As long as the calendar has no leap seconds, and the slice has bounds that milliseconds
can tell, both choices come to the one that loading the slice alone would make. So it does not matter to a
request how much more than its window was loaded.
-/

namespace MarketBars

namespace Archive

def rowsAt (calendar : Array Instant) (positions : List Nat) (found : List (String × FeatureSeries))
    (factor? : Option FeatureSeries) : List Row :=
  positions.filterMap fun i => calendar[i]?.map fun t => rowAt found factor? t i

variable {test : Int → Bool} {calendar : Array Instant} {positions : List Nat}
  {found : List (String × FeatureSeries)} {factor? : Option FeatureSeries}

theorem rowsOf_eq_rowsAt (hpositions : ∀ i ∈ positions, ∃ t, calendar[i]? = some t) :
    Table.rowsOf (positions.filterMap fun i => calendar[i]?) (columnsAt positions found factor?) =
      rowsAt calendar positions found factor? := by
  have hstamps := map_eq_map_some_filterMap hpositions
  have hlength : (positions.filterMap fun i => calendar[i]?).length = positions.length := by
    simpa using (congrArg List.length hstamps).symm
  rw [rowsOf_eq_map_rowAt hlength, rowsAt]
  clear hstamps hlength
  induction positions with
  | nil => rfl
  | cons i rest ih =>
    obtain ⟨t, ht⟩ := hpositions i List.mem_cons_self
    simp only [List.filterMap_cons, ht, Option.map_some, List.zip_cons_cons, List.map_cons]
    rw [ih fun j hj => hpositions j (List.mem_cons_of_mem i hj)]

theorem filter_rowsAt :
    (rowsAt calendar positions found factor?).filter (Row.passes test) =
      rowsAt calendar (positions.filter fun i => calendar[i]?.any fun t => test t.millis) found
        factor? := by
  have hpasses : ∀ t i, Row.passes test (rowAt found factor? t i) = test t.millis := fun _ _ => rfl
  rw [rowsAt, rowsAt]
  induction positions with
  | nil => rfl
  | cons i rest ih =>
    cases ht : calendar[i]? with
    | none => simp [ht, ih]
    | some t => by_cases htest : test t.millis = true <;> simp [ht, hpasses, htest, ih]

/-- The rows of a table at some positions are chosen before or after the table is made. -/
theorem tableAt_cut (hpositions : ∀ i ∈ positions, ∃ t, calendar[i]? = some t) :
    (tableAt calendar positions found factor?).map (Table.cut test) =
      tableAt calendar (positions.filter fun i => calendar[i]?.any fun t => test t.millis) found
        factor? := by
  have hkept : ∀ i ∈ positions.filter (fun i => calendar[i]?.any fun t => test t.millis),
      ∃ t, calendar[i]? = some t := fun i hi => hpositions i (List.mem_filter.mp hi).1
  rw [tableAt_eq, tableAt_eq, except_map_map]
  refine Table.map_ofColumns_congr (length_columnsAt_stamps hpositions)
    (length_columnsAt_stamps hkept) ?_ fun t t' hnames ht ht' => ?_
  · rw [names_columnsAt, names_columnsAt]
  · have hcut : t.cut test = t' := by
      refine Table.eq_of_names_of_rows hnames ?_
      show t.rows.filter (Row.passes test) = t'.rows
      rw [ht, ht', rowsOf_eq_rowsAt hpositions, rowsOf_eq_rowsAt hkept, filter_rowsAt]
    rw [Function.comp_apply, Table.cut_dedupFirst (Table.isStamped_of_rowsOf ht), hcut]

/-- Positions are chosen by two bounds and a test, or by the two bounds that the test adds up to. -/
theorem filter_calendarPositions {start stop start' stop' : Instant}
    (htest : ∀ t ∈ calendar, (start ≤ t ∧ t ≤ stop ∧ test t.millis = true) ↔ (start' ≤ t ∧ t ≤ stop'))
    (first last : Nat) :
    ((calendarPositions calendar start stop first last).filter fun i =>
        calendar[i]?.any fun t => test t.millis) =
      calendarPositions calendar start' stop' first last := by
  rw [calendarPositions, List.filter_filter]
  refine List.filter_congr fun i _ => ?_
  cases ht : calendar[i]? with
  | none => rfl
  | some t =>
    have hiff := htest t (Array.mem_of_getElem? ht)
    simp only [Option.any_some]
    rw [Bool.eq_iff_iff]
    simp only [Bool.and_eq_true, decide_eq_true_eq]
    rw [← hiff]
    exact ⟨fun h => ⟨h.2.1, h.2.2, h.1⟩, fun h => ⟨h.2.2, h.1, h.2.1⟩⟩

/-- The rows of a loaded instrument are chosen by a test when it has been loaded, or by the bounds that it
is loaded for. -/
theorem load_cut (a : Archive) (symbol : String) (fields : List String) (f : Frequency)
    {start stop start' stop' : Instant}
    (htest : ∀ t ∈ calendar,
      (start ≤ t ∧ t ≤ stop ∧ test t.millis = true) ↔ (start' ≤ t ∧ t ≤ stop')) :
    (a.load symbol fields f calendar start stop).map (Option.map fun got => (got.1.cut test, got.2)) =
      a.load symbol fields f calendar start' stop' := by
  have hid : ∀ {ε α : Type} (x : Except ε α), x = x.map id := fun x => by cases x <;> rfl
  rw [hid (a.load symbol fields f calendar start' stop')]
  refine map_bind_congr_of_ok fun files _ => ?_
  dsimp only
  split
  · rfl
  -- Neither the factors nor the extent of the files depend on the bounds.
  refine map_bind_congr_of_ok fun factor? _ => map_bind_congr_of_ok fun last _ => ?_
  have htable : ∀ first last,
      (liftError (tableAt calendar (calendarPositions calendar start stop first last)
        (Archive.found files) factor?)).map (Table.cut test) =
      (liftError (tableAt calendar (calendarPositions calendar start' stop' first last)
        (Archive.found files) factor?)).map id := by
    intro first last
    rw [← hid, map_liftError, tableAt_cut exists_of_mem_calendarPositions,
      filter_calendarPositions htest]
  exact map_bind_congr (htable _ _) fun t t' ht =>
    congrArg (fun table => Except.ok (some (table, lacking files))) ht

/-- The slice of a loaded instrument is the instrument loaded for the slice, in a calendar without fractions
and leap seconds. -/
theorem load_within (a : Archive) (symbol : String) (fields : List String) (f : Frequency)
    (hcalendar : ∀ t ∈ calendar, t.time.nano = 0) {start stop : Instant} {w : Window}
    (hexact : w.CountsExactly) (hstart : start ≤ w.start) (hstop : w.stop ≤ stop) :
    (a.load symbol fields f calendar start stop).map
        (Option.map fun got => (got.1.within w.start w.stop, got.2)) =
      a.load symbol fields f calendar w.start w.stop := by
  simp only [Table.within_eq_cut]
  refine a.load_cut symbol fields f fun t ht => ?_
  rw [Bool.and_eq_true, decide_eq_true_eq, decide_eq_true_eq]
  change start ≤ t ∧ t ≤ stop ∧ w.Counts t.millis ↔ _
  rw [hexact.counts_iff (hcalendar t ht)]
  exact ⟨fun h => h.2.2, fun h =>
    ⟨Instant.le_trans hstart h.1, Instant.le_trans h.2 hstop, h⟩⟩

end Archive

namespace ArchiveSettings

/-- A window lies inside the range of the settings. -/
def Spans (settings : ArchiveSettings) (w : Window) : Prop :=
  Instant.startOf settings.start ≤ w.start ∧ w.stop ≤ ⟨settings.stop, .lastSecond⟩

instance (settings : ArchiveSettings) (w : Window) : Decidable (settings.Spans w) :=
  inferInstanceAs (Decidable (_ ∧ _))

def forRange (settings : ArchiveSettings) (start stop : Date) : ArchiveSettings :=
  { settings with start, stop }

end ArchiveSettings

/-- The calendar of a frequency has no leap seconds. -/
def Archive.IsLeapless (a : Archive) (f : Frequency) : Prop :=
  ∀ calendar, a.calendar f = .ok calendar → ∀ t ∈ calendar, t.time.nano < 1000000000

/-- Without leap seconds, the instants of a calendar have no fractions at all. -/
theorem ArchiveFolder.nano_of_isLeapless {a : ArchiveFolder} {f : Frequency}
    (h : a.archive.IsLeapless f) {calendar : List Instant}
    (hcalendar : a.archive.calendar f = .ok calendar) : ∀ t ∈ calendar, t.time.nano = 0 := by
  intro t ht
  have hlt := h calendar hcalendar t ht
  rcases isWhole_of_calendar hcalendar t ht with hwhole | hleap
  · exact hwhole
  · omega

namespace Snapshot

variable {a : Archive} {settings : ArchiveSettings} {w : Window}

theorem loadAll_within {calendar : Array Instant} (hcalendar : ∀ t ∈ calendar, t.time.nano = 0)
    (hexact : w.CountsExactly) {start stop : Instant} (hstart : start ≤ w.start) (hstop : w.stop ≤ stop)
    (fields : List String) (f : Frequency) (instruments : List Ticker) :
    (loadAll a fields f calendar start stop instruments).map
        (List.map fun e => (e.1, e.2.map fun got => (got.1.within w.start w.stop, got.2))) =
      loadAll a fields f calendar w.start w.stop instruments := by
  have hone : ∀ t : Ticker,
      (do pure (t, ← a.load t.symbol fields f calendar start stop) : Except Failure _).map
        (fun e => (e.1, e.2.map fun got => (got.1.within w.start w.stop, got.2))) =
      (do pure (t, ← a.load t.symbol fields f calendar w.start w.stop)) := by
    intro t
    rw [← a.load_within t.symbol fields f hcalendar hexact hstart hstop]
    cases a.load t.symbol fields f calendar start stop <;> rfl
  exact map_mapM_eq hone instruments

/-- The slices of the tables of a snapshot are made of the instruments loaded for the slice. -/
theorem loadedTables_within {got : Gathered} {expansions : List (Ticker × List Ticker)}
    {calendar : List Instant}
    (hgot : Gathers a settings (.startOf settings.start) ⟨settings.stop, .lastSecond⟩ got expansions
      calendar)
    (hcalendar : ∀ t ∈ calendar, t.time.nano = 0) (hexact : w.CountsExactly)
    (hspans : settings.Spans w) {tables : List (Ticker × Table)}
    (htables : loadedTables settings.fieldMap got.loaded = .ok tables) :
    ∃ loaded, loadAll a (distinctBy id settings.fields) got.frequency calendar.toArray w.start w.stop
        (distinctTickers (expansions.flatMap Prod.snd)) = .ok loaded ∧
      loadedTables settings.fieldMap loaded =
        .ok (tables.map fun e => (e.1, e.2.within w.start w.stop)) := by
  have hloaded := @loadAll_within a w calendar.toArray (by simpa using hcalendar) hexact _ _ hspans.1
    hspans.2 (distinctBy id settings.fields) got.frequency (distinctTickers (expansions.flatMap Prod.snd))
  rw [hgot.loaded_eq] at hloaded
  refine ⟨_, hloaded.symm, ?_⟩
  simp only [Table.within_eq_cut]
  have hcut := loadedTables_cut
    (fun ms => decide (w.start.millis ≤ ms) && decide (ms ≤ w.stop.millis)) settings.fieldMap got.loaded
  rw [htables] at hcut
  exact hcut.symm

theorem expansion_of_not_index {ticker : Ticker} (h : ticker.kind ≠ .index) (start stop : Date) :
    expansion a start stop ticker = .ok (ticker, [ticker]) :=
  if_neg h

section NoIndices

variable {got : Gathered} {expansions : List (Ticker × List Ticker)} {calendar : List Instant}
  {start stop : Instant}

theorem kind_of_no_indices (hindices : settings.indices = []) :
    ∀ t ∈ distinctTickers settings.tickerList, t.kind ≠ .index := by
  intro t ht
  have htickers : t ∈ settings.tickerList := (distinctAfter_sublist _ _ _).subset ht
  rw [ArchiveSettings.tickerList, hindices, List.map_nil, List.append_nil] at htickers
  obtain ⟨symbol, -, rfl⟩ := List.mem_map.mp htickers
  exact SecurityKind.noConfusion

/-- Settings without indices come to their stocks, whatever the range. -/
theorem Gathers.expansions_of_no_indices
    (h : Gathers a settings start stop got expansions calendar) (hindices : settings.indices = []) :
    expansions = (distinctTickers settings.tickerList).map fun t => (t, [t]) := by
  have hall : (distinctTickers settings.tickerList).mapM (expansion a settings.start settings.stop) =
      .ok ((distinctTickers settings.tickerList).map fun t => (t, [t])) := by
    rw [mapM_eq_ok_iff, List.map_map]
    exact List.map_congr_left fun t ht =>
      expansion_of_not_index (kind_of_no_indices hindices t ht) _ _
  rw [← h.requested_eq] at hall ⊢
  exact Except.ok.inj (h.expansions_eq.symm.trans hall)

theorem Gathers.members_of_no_indices
    (h : Gathers a settings start stop got expansions calendar) (hindices : settings.indices = []) :
    got.members = [] := by
  rw [h.members_eq, List.map_eq_nil_iff, List.filter_eq_nil_iff, h.expansions_of_no_indices hindices]
  intro e he
  obtain ⟨t, ht, rfl⟩ := List.mem_map.mp he
  simpa using kind_of_no_indices hindices t ht

end NoIndices

theorem membersOf?_of_no_members {s : Snapshot} (h : s.members = []) (t : Ticker) :
    s.membersOf? t = none := by
  rw [membersOf?, h]
  split <;> rfl

/-- The slices of the tables of two snapshots, loaded for two ranges, agree in a window inside both. -/
theorem table?_within {start stop : Date} {s₁ s₂ : Snapshot} (hindices : settings.indices = [])
    (hcalendar : ∀ calendar, a.calendar s₁.frequency = .ok calendar → ∀ t ∈ calendar, t.time.nano = 0)
    (h₁ : (load a settings).result = .ok s₁) (h₂ : (load a (settings.forRange start stop)).result = .ok s₂)
    (hexact : w.CountsExactly) (hspans₁ : settings.Spans w) (hspans₂ : (settings.forRange start stop).Spans w)
    (symbol : String) :
    (s₁.table? symbol).map (Table.within · w.start w.stop) =
      (s₂.table? symbol).map (Table.within · w.start w.stop) := by
  obtain ⟨got₁, hgot₁, htables₁, -, hfrequency₁, -⟩ := of_load h₁
  obtain ⟨got₂, hgot₂, htables₂, -⟩ := of_load h₂
  obtain ⟨expansions₁, calendar₁, hgathers₁⟩ := gathers_of_gather hgot₁
  obtain ⟨expansions₂, calendar₂, hgathers₂⟩ := gathers_of_gather hgot₂
  -- Both read the same calendar and the same instruments, only for other bounds.
  have hfrequency : got₂.frequency = got₁.frequency :=
    Except.ok.inj (hgathers₂.frequency_eq.symm.trans hgathers₁.frequency_eq)
  have hdates : calendar₂ = calendar₁ := by
    have hread := hgathers₂.calendar_eq
    rw [hfrequency, hgathers₁.calendar_eq] at hread
    exact (Except.ok.inj hread).symm
  have hexpansions : expansions₂ = expansions₁ := by
    rw [hgathers₁.expansions_of_no_indices hindices, hgathers₂.expansions_of_no_indices hindices]
    rfl
  have hnano := hcalendar calendar₁ (hfrequency₁ ▸ hgathers₁.calendar_eq)
  obtain ⟨loaded₁, hloaded₁, hcut₁⟩ := loadedTables_within hgathers₁ hnano hexact hspans₁ htables₁
  obtain ⟨loaded₂, hloaded₂, hcut₂⟩ :=
    loadedTables_within hgathers₂ (hdates ▸ hnano) hexact hspans₂ htables₂
  rw [hfrequency, hdates, hexpansions] at hloaded₂
  obtain rfl : loaded₁ = loaded₂ := Except.ok.inj (hloaded₁.symm.trans hloaded₂)
  have hsame := Except.ok.inj (hcut₁.symm.trans hcut₂)
  have hread : ∀ s : Snapshot, (s.table? symbol).map (Table.within · w.start w.stop) =
      ((s.tables.map fun e => (e.1, e.2.within w.start w.stop)).find? fun e =>
        e.1.symbol == symbol).map Prod.snd := by
    intro s
    rw [table?, List.find?_map, Option.map_map, Option.map_map]
    rfl
  rw [hread, hread, hsame]

/-- Snapshots without indices that are loaded for different ranges answer alike when the window of the
request is inside both: a table that is cut to the window is the table that would be loaded for it. -/
theorem slices_agree {a : ArchiveFolder} {settings : ArchiveSettings} {start stop : Date}
    {s₁ s₂ : Snapshot} (hindices : settings.indices = []) (hleap : a.archive.IsLeapless s₁.frequency)
    (h₁ : (load a.archive settings).result = .ok s₁)
    (h₂ : (load a.archive (settings.forRange start stop)).result = .ok s₂) :
    (∀ (σ : Type) (clock : MarketClock) (r : HistoryRequest) (state : σ),
      (∀ w, Window.ofRequest? clock r.start r.stop? s₁.frequency r.lookAhead = some w →
        w.isEmpty = false → settings.Spans w ∧ (settings.forRange start stop).Spans w) →
      s₁.history clock r state = s₂.history clock r state) ∧
    (∀ (σ : Type) (clock : MarketClock) (r : PriceRequest) (state : σ),
      (∀ w, Window.ofRequest? clock r.start r.stop? s₁.frequency r.lookAhead = some w →
        w.isEmpty = false → settings.Spans w ∧ (settings.forRange start stop).Spans w) →
      (s₁.provider clock).price r state = (s₂.provider clock).price r state) ∧
    ∀ (calendar : List Instant) (symbol : String) (fields : List String) (first last : Instant)
      (w : Window), a.archive.calendar s₁.frequency = .ok calendar → w.CountsExactly →
      first ≤ w.start → w.stop ≤ last →
      (a.archive.load symbol fields s₁.frequency calendar.toArray first last).map
          (Option.map fun got => (got.1.within w.start w.stop, got.2)) =
        a.archive.load symbol fields s₁.frequency calendar.toArray w.start w.stop := by
  obtain ⟨got₁, hgot₁, -, hmembers₁, hfrequency₁, hprices₁, -⟩ := of_load h₁
  obtain ⟨got₂, hgot₂, -, hmembers₂, hfrequency₂, hprices₂, -⟩ := of_load h₂
  obtain ⟨_, _, hgathers₁⟩ := gathers_of_gather hgot₁
  obtain ⟨_, _, hgathers₂⟩ := gathers_of_gather hgot₂
  have hsetting : settings.frequency = (settings.forRange start stop).frequency := rfl
  have hfrequency := frequency_eq_of_loads hsetting h₁ h₂
  rw [hgathers₁.members_of_no_indices hindices] at hmembers₁
  rw [hgathers₂.members_of_no_indices hindices] at hmembers₂
  -- Without indices, every ticker stands for itself in both snapshots.
  have hmembers : s₁.membersOf? = s₂.membersOf? := by
    funext t
    rw [membersOf?_of_no_members hmembers₁, membersOf?_of_no_members hmembers₂]
  have hhistory : ∀ (σ : Type) (clock : MarketClock) (r : HistoryRequest) (state : σ),
      (∀ w, Window.ofRequest? clock r.start r.stop? s₁.frequency r.lookAhead = some w →
        w.isEmpty = false → settings.Spans w ∧ (settings.forRange start stop).Spans w) →
      s₁.history clock r state = s₂.history clock r state := by
    intro σ clock r state hspans
    refine history_congr hfrequency ?_ ?_ (fun w hw hwindow ticker _ => ?_) state
    · rw [expand, expand, hmembers]
    · rw [expands, expands, hmembers]
    · have hnano := Window.nano_bounds hw
      obtain ⟨hspans₁, hspans₂⟩ := hspans w hw hwindow
      exact table?_within hindices (fun _ hcalendar => ArchiveFolder.nano_of_isLeapless hleap hcalendar) h₁ h₂
        (Window.countsExactly_of_nano hnano.1 hnano.2) hspans₁ hspans₂ ticker.symbol
  refine ⟨hhistory, fun σ clock r state hspans => ?_, fun calendar symbol fields first last w hcalendar
    hexact hfirst hlast => ?_⟩
  · refine @Provider.price_congr σ (s₁.provider clock) (s₂.provider clock) rfl ?_ r state fun map =>
      hhistory σ clock (r.toHistory map) state hspans
    exact hprices₁.trans hprices₂.symm
  · exact a.archive.load_within symbol fields s₁.frequency
      (by simpa using ArchiveFolder.nano_of_isLeapless hleap hcalendar) hexact hfirst hlast

theorem calendar_twoCloses : (twoClosesFolder 98).calendar .daily =
    .ok [.startOf .newYear, .startOf .afterNewYear] := by
  have hpath : (twoClosesFolder 98).calendarPath .daily = ⟨"/calendars/day.txt"⟩ := by decide +kernel
  have hparts : FilePath.parts ⟨"/calendars/day.txt"⟩ = ["calendars", "day.txt"] := by
    rw [FilePath.parts_eq]
    decide +kernel
  have hfind : (twoClosesFolder 98).files.find ⟨"/calendars/day.txt"⟩ =
      .ok (.file twoDates.toUTF8.toList) := by
    rw [FileSystem.find_of_isAbsolute _ (by decide +kernel) (by decide +kernel) (by decide +kernel),
      hparts]
    rfl
  have htext : FileSystem.textOf? twoDates.toUTF8.toList = some twoDates := by decide +kernel
  exact ArchiveFolder.calendar_of_find (hpath ▸ hfind) htext

theorem feature_twoCloses :
    (twoClosesFolder 98).feature "A" "close" .daily = .ok (some ⟨0, #[.ofNat 10, .ofNat 98]⟩) ∧
      (twoClosesFolder 98).feature "A" "factor" .daily = .ok none := by
  obtain ⟨hclose, hfactor⟩ := (twoClosesFolder 98).find_closes rfl
  have hfile : (twoClosesFolder 98).files.follow ["features", "a", "close.day.bin"] =
      .ok (.file (twoCloses 98)) := rfl
  have hnone : (twoClosesFolder 98).files.follow ["features", "a", "factor.day.bin"] =
      .error .notFound := rfl
  exact ⟨ArchiveFolder.feature_of_find (hclose.trans hfile) rfl,
    ArchiveFolder.feature_of_find_error (hfactor.trans hnone)⟩

/-- The closing prices can be loaded for any range of days. -/
theorem exists_load_twoCloses (start stop : Date) :
    ∃ s, (load (twoClosesFolder 98).archive (twoClosesSettings.forRange start stop)).result = .ok s := by
  have hfiles : (twoClosesFolder 98).archive.featureFiles "A" ["close"] .daily =
      .ok [("close", some ⟨0, #[.ofNat 10, .ofNat 98]⟩)] := by
    rw [Archive.featureFiles, mapM_eq_ok_iff]
    exact congrArg (fun read => [read]) (bind_eq_ok_iff.mpr ⟨_, feature_twoCloses.1, rfl⟩)
  obtain ⟨t, ht⟩ := Archive.exists_load #[.startOf .newYear, .startOf .afterNewYear]
    (.startOf start) ⟨stop, .lastSecond⟩ (by decide) (by decide) hfiles (by decide)
    feature_twoCloses.2 (rfl : _ = some 2)
  have hloaded : loadAll (twoClosesFolder 98).archive ["close"] .daily
      #[.startOf .newYear, .startOf .afterNewYear] (.startOf start) ⟨stop, .lastSecond⟩ [.stock "A"] =
        .ok [(.stock "A", some (t, []))] := by
    rw [loadAll, mapM_eq_ok_iff]
    exact congrArg (fun read => [read]) (bind_eq_ok_iff.mpr ⟨_, ht, rfl⟩)
  have hfrequency : frequencySetting Frequency.daily.name = .ok .daily := rfl
  have hgathers : Gathers (twoClosesFolder 98).archive (twoClosesSettings.forRange start stop)
      (.startOf start) ⟨stop, .lastSecond⟩ ⟨.daily, [.stock "A"], [], [(.stock "A", some (t, []))]⟩
        [(.stock "A", [.stock "A"])] [.startOf .newYear, .startOf .afterNewYear] :=
    ⟨hfrequency, rfl, rfl, calendar_twoCloses, hloaded, rfl⟩
  exact exists_load hgathers.gather_eq (List.cons_ne_nil _ _)

/-- A request for the first day. -/
def newYearRequest : HistoryRequest where
  tickers := .one (.stock "A")
  fields := .one (.native "close")
  start := .startOf .newYear
  stop? := some (.startOf .newYear)
  lookAhead := true

/-- The first day is in both ranges, so it does not matter whether the second was loaded too. -/
theorem slices_agree_newYear :
    ∃ s₁ s₂, (load (twoClosesFolder 98).archive twoClosesSettings).result = .ok s₁ ∧
      (load (twoClosesFolder 98).archive (twoClosesSettings.forRange .newYear .newYear)).result = .ok s₂ ∧
      twoClosesSettings.indices = [] ∧ (twoClosesFolder 98).archive.IsLeapless s₁.frequency ∧
      s₁.history afternoon newYearRequest () = s₂.history afternoon newYearRequest () := by
  obtain ⟨s₁, h₁⟩ := exists_load_twoCloses .newYear .afterNewYear
  obtain ⟨s₂, h₂⟩ := exists_load_twoCloses .newYear .newYear
  have hfrequency := frequency_of_load_daily h₁ rfl
  have hleap : (twoClosesFolder 98).archive.IsLeapless s₁.frequency := by
    intro calendar hcalendar t ht
    rw [hfrequency] at hcalendar
    obtain rfl := Except.ok.inj (calendar_twoCloses.symm.trans hcalendar)
    rcases List.mem_pair.mp ht with rfl | rfl <;> decide
  refine ⟨s₁, s₂, h₁, h₂, rfl, hleap, ?_⟩
  refine (slices_agree rfl hleap h₁ h₂).1 Unit afternoon newYearRequest () fun w hw _ => ?_
  have hwindow : Window.ofRequest? afternoon newYearRequest.start newYearRequest.stop? .daily
      newYearRequest.lookAhead = some ⟨.startOf .newYear, ⟨.newYear, .lastSecond⟩, true⟩ := by
    decide +kernel
  rw [hfrequency, hwindow] at hw
  cases hw
  exact ⟨by decide, by decide⟩

end Snapshot

end MarketBars
