import MarketBars.Archive.Snapshot
import MarketBars.Proofs.Archive.Instrument
import MarketBars.Proofs.Pipeline.Pricing
import MarketBars.Proofs.Table.Copying

namespace MarketBars

def ArchiveSettings.unmapped (settings : ArchiveSettings) : ArchiveSettings :=
  { settings with fieldMap := [] }

namespace Table

/-- The origins after each mapped column is copied under the name of its price field, one mapping after
the other. -/
def Origin.prices (origin : Origin) (map : List (String × PriceField)) : Origin :=
  map.foldl (fun o m => o.copy m.1 m.2.name) origin

theorem Origin.prices_of_ne {origin : Origin} {map : List (String × PriceField)} {name : String}
    (h : ∀ m ∈ map, m.2.name ≠ name) : origin.prices map name = origin name := by
  induction map generalizing origin with
  | nil => rfl
  | cons m rest ih =>
    have hrest : ∀ m' ∈ rest, m'.2.name ≠ name := fun m' hm' => h m' (List.mem_cons_of_mem m hm')
    have hm : name ≠ m.2.name := (h m List.mem_cons_self).symm
    rw [Origin.prices, List.foldl_cons, ← Origin.prices, ih hrest, Origin.copy_of_ne hm]

theorem Origin.copy_of_none {origin : Origin} {source : String} (h : origin source = none)
    (target : String) : origin.copy source target = origin := by
  funext name
  by_cases hname : name = target
  · rw [hname, Origin.copy_target, h, Option.none_or]
  · exact Origin.copy_of_ne hname

/-- Copying what is not there changes nothing, so a name keeps its origin when only the timestamps,
which are no column, are copied to it. -/
theorem Origin.prices_of_not_copied {origin : Origin} {map : List (String × PriceField)} {name : String}
    (hstamp : origin stampName = none) (h : ∀ m ∈ map, m.2.name = name → m.1 = stampName) :
    origin.prices map name = origin name := by
  induction map generalizing origin with
  | nil => rfl
  | cons m rest ih =>
    have hrest : ∀ m' ∈ rest, m'.2.name = name → m'.1 = stampName :=
      fun m' hm' => h m' (List.mem_cons_of_mem m hm')
    have hstamp' : origin.copy m.1 m.2.name stampName = none := by
      rw [Origin.copy_of_ne m.2.name_ne_stampName.symm, hstamp]
    rw [Origin.prices, List.foldl_cons, ← Origin.prices, ih hstamp' hrest]
    by_cases hname : name = m.2.name
    · rw [h m List.mem_cons_self hname.symm, Origin.copy_of_none hstamp]
    · exact Origin.copy_of_ne hname

end Table

namespace Snapshot

open Table (Origin)

/-- Mappings never fail: they copy the columns that are there, and pass over the others. -/
theorem exists_withPrices (map : List (String × PriceField)) {t u : Table} {origin : Origin}
    (h : t.Copies origin u) :
    ∃ u', withPrices map u = .ok u' ∧ t.Copies (origin.prices map) u' := by
  induction map generalizing u origin with
  | nil => exact ⟨u, rfl, h⟩
  | cons m rest ih =>
    -- What was copied so far is the table that the next mapping sees.
    have hname := m.2.name_ne_stampName
    by_cases hcolumn : m.1 ∈ u.names
    · obtain ⟨u₁, hu₁, hcopies⟩ := h.copy hcolumn hname
      obtain ⟨u', hu', hcopies'⟩ := ih hcopies
      refine ⟨u', ?_, hcopies'⟩
      rw [withPrices, List.foldlM_cons, if_pos (List.contains_iff_mem.mpr hcolumn), hu₁]
      exact hu'
    · have horigin : origin m.1 = none := by
        rw [h.mem_names] at hcolumn
        simpa using hcolumn
      obtain ⟨u', hu', hcopies'⟩ := ih h
      refine ⟨u', ?_, ?_⟩
      · rw [withPrices, List.foldlM_cons, if_neg (by simpa using hcolumn)]
        exact hu'
      · rw [Origin.prices, List.foldl_cons, Origin.copy_of_none horigin]
        exact hcopies'

def bareTables (loaded : List (Ticker × Option (Table × List String))) : List (Ticker × Table) :=
  loaded.filterMap fun e => e.2.map fun got => (e.1, got.1)

/-- What was gathered, with what was read on the way: the expansions of the tickers and the calendar. -/
structure Gathers (a : Archive) (settings : ArchiveSettings) (start stop : Instant) (got : Gathered)
    (expansions : List (Ticker × List Ticker)) (calendar : List Instant) : Prop where
  frequency_eq : frequencySetting settings.frequency = .ok got.frequency
  requested_eq : got.requested = distinctTickers settings.tickerList
  expansions_eq : got.requested.mapM (expansion a settings.start settings.stop) = .ok expansions
  calendar_eq : a.calendar got.frequency = .ok calendar
  loaded_eq : loadAll a (distinctBy id settings.fields) got.frequency calendar.toArray start stop
    (distinctTickers (expansions.flatMap Prod.snd)) = .ok got.loaded
  members_eq : got.members = (expansions.filter fun e => e.1.kind == .index).map fun e =>
    (e.1.symbol, distinctTickers e.2)

theorem gathers_of_gather {a : Archive} {settings : ArchiveSettings} {start stop : Instant}
    {got : Gathered} (h : gather a settings start stop = .ok got) :
    ∃ expansions calendar, Gathers a settings start stop got expansions calendar := by
  obtain ⟨f, hf, h⟩ := bind_eq_ok_iff.mp h
  obtain ⟨_, -, h⟩ := bind_eq_ok_iff.mp h
  obtain ⟨expansions, hexpansions, h⟩ := bind_eq_ok_iff.mp h
  obtain ⟨calendar, hcalendar, h⟩ := bind_eq_ok_iff.mp h
  obtain ⟨loaded, hloaded, h⟩ := bind_eq_ok_iff.mp h
  cases h
  exact ⟨expansions, calendar, liftError_eq_ok_iff.mp hf, rfl, liftError_eq_ok_iff.mp hexpansions,
    liftError_eq_ok_iff.mp hcalendar, hloaded, rfl⟩

theorem checkKinds_tickerList (settings : ArchiveSettings) :
    checkKinds name kinds (distinctTickers settings.tickerList) = .ok () := by
  have hnone : (distinctTickers settings.tickerList).find? (fun t => !kinds.contains t.kind) = none := by
    rw [List.find?_eq_none]
    intro t ht
    have hmem := (distinctAfter_sublist Ticker.symbol [] settings.tickerList).subset ht
    rcases List.mem_append.mp hmem with hstock | hindex
    · obtain ⟨symbol, -, rfl⟩ := List.mem_map.mp hstock
      show ¬ (!kinds.contains .stock) = true
      decide
    · obtain ⟨symbol, -, rfl⟩ := List.mem_map.mp hindex
      show ¬ (!kinds.contains .index) = true
      decide
  rw [checkKinds, hnone]

/-- Nothing else than what was read on the way can keep a snapshot from being gathered. -/
theorem Gathers.gather_eq {a : Archive} {settings : ArchiveSettings} {start stop : Instant}
    {got : Gathered} {expansions : List (Ticker × List Ticker)} {calendar : List Instant}
    (h : Gathers a settings start stop got expansions calendar) :
    gather a settings start stop = .ok got := by
  obtain ⟨frequency, requested, members, loaded⟩ := got
  obtain ⟨hfrequency, hrequested, hexpansions, hcalendar, hloaded, hmembers⟩ := h
  cases hrequested
  cases hmembers
  refine bind_eq_ok_iff.mpr ⟨frequency, liftError_eq_ok_iff.mpr hfrequency, ?_⟩
  refine bind_eq_ok_iff.mpr ⟨(), liftError_eq_ok_iff.mpr (checkKinds_tickerList settings), ?_⟩
  refine bind_eq_ok_iff.mpr ⟨expansions, liftError_eq_ok_iff.mpr hexpansions, ?_⟩
  refine bind_eq_ok_iff.mpr ⟨calendar, liftError_eq_ok_iff.mpr hcalendar, ?_⟩
  exact bind_eq_ok_iff.mpr ⟨loaded, hloaded, rfl⟩

/-- What a loaded snapshot consists of. -/
theorem of_load {a : Archive} {settings : ArchiveSettings} {s : Snapshot}
    (h : (load a settings).result = .ok s) :
    ∃ got, gather a settings (.startOf settings.start) ⟨settings.stop, .lastSecond⟩ = .ok got ∧
      loadedTables settings.fieldMap got.loaded = .ok s.tables ∧ s.members = got.members ∧
      s.frequency = got.frequency ∧
      (s.priceMap? = if settings.fieldMap.isEmpty then none
        else some (PriceMap.identity (settings.fieldMap.map Prod.snd))) ∧ s.tables ≠ [] := by
  unfold load at h
  cases hgot : gather a settings (.startOf settings.start) ⟨settings.stop, .lastSecond⟩ with
  | error e =>
    simp only [hgot] at h
    cases h
  | ok got =>
    simp only [hgot] at h
    cases htables : loadedTables settings.fieldMap got.loaded with
    | error e =>
      simp only [htables] at h
      cases h
    | ok tables =>
      simp only [htables] at h
      split at h
      · cases h
      · rename_i hsome
        cases h
        refine ⟨got, rfl, htables, rfl, rfl, ?_, fun hnil => hsome (List.isEmpty_iff.mpr hnil)⟩
        rw [List.isEmpty_map]

theorem frequencySetting_of_load {a : Archive} {settings : ArchiveSettings} {s : Snapshot}
    (h : (load a settings).result = .ok s) : frequencySetting settings.frequency = .ok s.frequency := by
  obtain ⟨got, hgot, -, -, hfrequency, -⟩ := of_load h
  obtain ⟨expansions, calendar, hgathers⟩ := gathers_of_gather hgot
  rw [hfrequency, hgathers.frequency_eq]

theorem frequency_eq_of_loads {a b : Archive} {settings settings' : ArchiveSettings} {s₁ s₂ : Snapshot}
    (hsame : settings.frequency = settings'.frequency) (h₁ : (load a settings).result = .ok s₁)
    (h₂ : (load b settings').result = .ok s₂) : s₁.frequency = s₂.frequency := by
  have hread := frequencySetting_of_load h₁
  rw [hsame, frequencySetting_of_load h₂] at hread
  exact (Except.ok.inj hread).symm

theorem frequency_of_load_daily {a : Archive} {settings : ArchiveSettings} {s : Snapshot}
    (h : (load a settings).result = .ok s) (hdaily : settings.frequency = Frequency.daily.name) :
    s.frequency = .daily := by
  have hname : frequencySetting Frequency.daily.name = .ok .daily := rfl
  have hread := frequencySetting_of_load h
  rw [hdaily, hname] at hread
  exact (Except.ok.inj hread).symm

theorem loadedTables_nil (loaded : List (Ticker × Option (Table × List String))) :
    loadedTables [] loaded = .ok (bareTables loaded) := by
  rw [loadedTables, mapM_eq_ok_iff]
  refine List.map_congr_left fun e _ => ?_
  rfl

/-- The tables that have columns for their prices are as many as the instruments that have files. -/
theorem exists_loadedTables (map : List (String × PriceField))
    (loaded : List (Ticker × Option (Table × List String))) :
    ∃ tables, loadedTables map loaded = .ok tables ∧ tables.length = (bareTables loaded).length := by
  have hall : ∀ e ∈ bareTables loaded, ∃ e',
      (do pure (e.1, ← withPrices map e.2) : Except DataError (Ticker × Table)) = .ok e' := by
    intro e _
    obtain ⟨u, hu, -⟩ := exists_withPrices map (Table.Copies.refl e.2)
    exact ⟨(e.1, u), bind_eq_ok_iff.mpr ⟨u, hu, rfl⟩⟩
  obtain ⟨tables, htables⟩ := exists_mapM hall
  have hlength := congrArg List.length (mapM_eq_ok_iff.mp htables)
  rw [List.length_map, List.length_map] at hlength
  exact ⟨tables, htables, hlength.symm⟩

/-- Once all is gathered, there is a snapshot unless there is no table for it. -/
theorem load_of_gather {a : Archive} {settings : ArchiveSettings} {got : Gathered}
    (h : gather a settings (.startOf settings.start) ⟨settings.stop, .lastSecond⟩ = .ok got) :
    ∃ s : Snapshot, loadedTables settings.fieldMap got.loaded = .ok s.tables ∧
      s.members = got.members ∧ s.frequency = got.frequency ∧
      (load a settings).diagnostics = got.loaded.flatMap (fun e => loadNote got.requested e.1 e.2) ∧
      (s.tables = [] → (load a settings).result =
        .error (.error (.noDataFound (String.intercalate ", " (got.requested.map Ticker.symbol))))) ∧
      (s.tables ≠ [] → (load a settings).result = .ok s) := by
  obtain ⟨tables, htables, -⟩ := exists_loadedTables settings.fieldMap got.loaded
  let mapped := settings.fieldMap.map Prod.snd
  let priceMap? := if mapped.isEmpty then none else some (PriceMap.identity mapped)
  refine ⟨⟨tables, got.members, fieldNames settings, priceMap?, got.frequency, .startOf settings.start,
    ⟨settings.stop, .lastSecond⟩⟩, htables, rfl, rfl, ?_⟩
  unfold load
  dsimp only
  rw [h]
  dsimp only
  rw [htables]
  cases tables with
  | nil => exact ⟨rfl, fun _ => rfl, fun hne => absurd rfl hne⟩
  | cons e rest => exact ⟨rfl, nofun, fun _ => rfl⟩

/-- When an instrument has files there is a snapshot, whatever the columns are mapped to. -/
theorem exists_load {a : Archive} {settings : ArchiveSettings} {got : Gathered}
    (h : gather a settings (.startOf settings.start) ⟨settings.stop, .lastSecond⟩ = .ok got)
    (hsome : bareTables got.loaded ≠ []) : ∃ s, (load a settings).result = .ok s := by
  obtain ⟨tables, htables, hlength⟩ := exists_loadedTables settings.fieldMap got.loaded
  obtain ⟨s, hs, -, -, -, -, hload⟩ := load_of_gather h
  cases htables.symm.trans hs
  refine ⟨s, hload ?_⟩
  rwa [← List.length_pos_iff, hlength, List.length_pos_iff]

/-- What can be loaded without mappings can be loaded with them. -/
theorem exists_load_of_unmapped {a : Archive} {settings : ArchiveSettings} {raw : Snapshot}
    (h : (load a settings.unmapped).result = .ok raw) : ∃ s, (load a settings).result = .ok s := by
  obtain ⟨got, hgot, htables, -, -, -, hsome⟩ := of_load h
  have hbare : bareTables got.loaded = raw.tables :=
    Except.ok.inj ((loadedTables_nil got.loaded).symm.trans htables)
  rw [← hbare] at hsome
  exact @exists_load a settings got hgot hsome

/-- The tables that settings with mappings load are copies of the ones without. -/
theorem table?_of_withPrices {map : List (String × PriceField)} {bare tables : List (Ticker × Table)}
    (h : (bare.mapM fun e => do pure (e.1, ← withPrices map e.2)) = .ok tables) (symbol : String) :
    ((bare.find? fun e => e.1.symbol == symbol) = none ∧
        (tables.find? fun e => e.1.symbol == symbol) = none) ∨
      ∃ e e', (bare.find? fun e => e.1.symbol == symbol) = some e ∧
        (tables.find? fun e => e.1.symbol == symbol) = some e' ∧
          e.2.Copies ((Origin.self e.2.names).prices map) e'.2 := by
  rw [mapM_eq_ok_iff] at h
  induction bare generalizing tables with
  | nil =>
    cases tables with
    | nil => exact Or.inl ⟨rfl, rfl⟩
    | cons e' rest => cases h
  | cons e rest ih =>
    cases tables with
    | nil => cases h
    | cons e' rest' =>
      obtain ⟨hhead, hrest⟩ := List.cons.inj h
      obtain ⟨u, hu, hpair⟩ := bind_eq_ok_iff.mp hhead
      cases hpair
      by_cases hsymbol : (e.1.symbol == symbol) = true
      · obtain ⟨u', hu', hcopies⟩ := exists_withPrices map (Table.Copies.refl e.2)
        cases hu.symm.trans hu'
        refine Or.inr ⟨e, (e.1, u), ?_, ?_, hcopies⟩
        · exact List.find?_cons_of_pos hsymbol
        · exact List.find?_cons_of_pos hsymbol
      · have hskip : ∀ (t : Table) (xs : List (Ticker × Table)),
            ((e.1, t) :: xs).find? (fun e => e.1.symbol == symbol) =
              xs.find? fun e => e.1.symbol == symbol :=
          fun t xs => List.find?_cons_of_neg hsymbol
        rw [hskip u rest', hskip e.2 rest]
        exact ih hrest

theorem names_of_gather {a : Archive} {settings : ArchiveSettings} {start stop : Instant}
    {got : Gathered} (h : gather a settings start stop = .ok got) {e : Ticker × Table}
    (he : e ∈ bareTables got.loaded) : ∀ name ∈ e.2.names, name ∈ settings.fields := by
  obtain ⟨expansions, calendar, hgathers⟩ := gathers_of_gather h
  obtain ⟨entry, hentry, hgot⟩ := List.mem_filterMap.mp he
  obtain ⟨⟨t, missing⟩, hsome, rfl⟩ := Option.map_eq_some_iff.mp hgot
  obtain ⟨ticker, got?⟩ := entry
  obtain rfl : got? = some (t, missing) := hsome
  have hload := ((mem_mapM_pair_iff hgathers.loaded_eq).mp hentry).2
  intro name hname
  have h := Archive.names_of_load hload name hname
  exact (distinctAfter_sublist id [] settings.fields).subset h

/-- A symbol has a table with mappings exactly when it has one without; the former then consists of
copies of the columns of the latter, and these are fields of the settings. -/
theorem table?_unmapped {a : Archive} {settings : ArchiveSettings} {raw mapped : Snapshot}
    (hraw : (load a settings.unmapped).result = .ok raw)
    (hmapped : (load a settings).result = .ok mapped) (symbol : String) :
    (raw.table? symbol = none ∧ mapped.table? symbol = none) ∨
      ∃ t u, raw.table? symbol = some t ∧ mapped.table? symbol = some u ∧
        t.Copies ((Origin.self t.names).prices settings.fieldMap) u ∧
          ∀ name ∈ t.names, name ∈ settings.fields := by
  obtain ⟨got, hgot, htables, -⟩ := of_load hmapped
  obtain ⟨got', hgot', htables', -⟩ := of_load hraw
  -- Nothing that is read depends on the mappings.
  have hsame : gather a settings.unmapped (.startOf settings.start) ⟨settings.stop, .lastSecond⟩ =
      gather a settings (.startOf settings.start) ⟨settings.stop, .lastSecond⟩ := rfl
  cases (hsame.symm.trans hgot').symm.trans hgot
  have hbare := Except.ok.inj ((loadedTables_nil got.loaded).symm.trans htables')
  unfold table?
  rw [← hbare]
  have hfind := @table?_of_withPrices settings.fieldMap (bareTables got.loaded) _ htables symbol
  rcases hfind with ⟨hnone, hnone'⟩ | ⟨e, e', hsome, hsome', hcopies⟩
  · exact Or.inl ⟨by rw [hnone]; rfl, by rw [hnone']; rfl⟩
  · have hnames := names_of_gather hgot (List.mem_of_find?_eq_some hsome)
    exact Or.inr ⟨e.2, e'.2, by rw [hsome]; rfl, by rw [hsome']; rfl, hcopies, hnames⟩

end Snapshot

end MarketBars
