import MarketBars.Proofs.Archive.Loading

namespace MarketBars

theorem mem_distinctTickers_of_stocks {tickers : List Ticker} (h : ∀ t ∈ tickers, t.kind = .stock)
    {t : Ticker} : t ∈ distinctTickers tickers ↔ t ∈ tickers := by
  constructor
  · intro ht
    exact (distinctAfter_sublist _ _ _).subset ht
  · intro ht
    have hsymbol := (mem_map_distinctBy Ticker.symbol tickers t.symbol).mpr (List.mem_map_of_mem ht)
    obtain ⟨u, hu, hsame⟩ := List.mem_map.mp hsymbol
    have hkind := h u ((distinctAfter_sublist _ _ _).subset hu)
    have hut : u = t := by
      obtain ⟨symbol, kind⟩ := t
      obtain ⟨symbol', kind'⟩ := u
      cases h _ ht
      cases hkind
      cases hsame
      rfl
    exact hut ▸ hu

namespace ArchiveSettings

/-- The constituents among some spans that were listed in the range of the settings, each of them once. -/
def constituents (settings : ArchiveSettings) (spans : List InstrumentSpan) : List Ticker :=
  distinctTickers ((spans.filter fun span => span.overlaps settings.start settings.stop).map fun span =>
    .stock span.symbol)

theorem mem_constituents_iff {settings : ArchiveSettings} {spans : List InstrumentSpan} {t : Ticker} :
    t ∈ settings.constituents spans ↔
      ∃ span ∈ spans.filter (fun span => span.overlaps settings.start settings.stop),
        Ticker.stock span.symbol = t := by
  have hstocks : ∀ t ∈ (spans.filter fun span => span.overlaps settings.start settings.stop).map
      fun span => Ticker.stock span.symbol, t.kind = .stock := by
    intro t ht
    obtain ⟨span, -, rfl⟩ := List.mem_map.mp ht
    rfl
  rw [constituents, mem_distinctTickers_of_stocks hstocks, List.mem_map]

theorem mem_tickerList {settings : ArchiveSettings} {t : Ticker} :
    t ∈ settings.tickerList ↔
      (t.kind = .stock ∧ t.symbol ∈ settings.tickers) ∨ (t.kind = .index ∧ t.symbol ∈ settings.indices) := by
  obtain ⟨symbol, kind⟩ := t
  simp only [tickerList, List.mem_append, List.mem_map, Ticker.stock, Ticker.index, Ticker.mk.injEq]
  constructor
  · rintro (⟨_, hmem, rfl, rfl⟩ | ⟨_, hmem, rfl, rfl⟩)
    · exact .inl ⟨rfl, hmem⟩
    · exact .inr ⟨rfl, hmem⟩
  · rintro (⟨rfl, hmem⟩ | ⟨rfl, hmem⟩)
    · exact .inl ⟨symbol, hmem, rfl, rfl⟩
    · exact .inr ⟨symbol, hmem, rfl, rfl⟩

/-- Stocks come first, so an index is passed over when a stock has its name. -/
theorem index_mem_distinctTickers_iff {settings : ArchiveSettings} {index : String} :
    Ticker.index index ∈ distinctTickers settings.tickerList ↔
      index ∈ settings.indices ∧ index ∉ settings.tickers := by
  constructor
  · intro h
    have hmem : Ticker.index index ∈ settings.tickerList := (distinctAfter_sublist _ _ _).subset h
    refine ⟨by simpa [mem_tickerList, Ticker.index] using hmem, fun hstock => ?_⟩
    -- The first ticker of that name would be the stock.
    have hfirst := find?_of_mem_distinctBy Ticker.symbol h
    rw [tickerList, List.find?_append, Option.or_eq_some_iff] at hfirst
    rcases hfirst with hfirst | ⟨hnone, -⟩
    · obtain ⟨symbol, -, hkind⟩ := List.mem_map.mp (List.mem_of_find?_eq_some hfirst)
      cases hkind
    · exact List.find?_eq_none.mp hnone _ (List.mem_map_of_mem hstock) (beq_self_eq_true index)
  · rintro ⟨hindex, hstock⟩
    have hsymbol : index ∈ settings.tickerList.map Ticker.symbol :=
      List.mem_map_of_mem (mem_tickerList.mpr (.inr ⟨rfl, hindex⟩) : Ticker.index index ∈ _)
    rw [← mem_map_distinctBy Ticker.symbol] at hsymbol
    obtain ⟨t, ht, rfl⟩ := List.mem_map.mp hsymbol
    rcases mem_tickerList.mp ((distinctAfter_sublist _ _ _).subset ht) with ⟨-, hmem⟩ | ⟨hkind, -⟩
    · exact absurd hmem hstock
    · obtain ⟨symbol, kind⟩ := t
      cases hkind
      exact ht

theorem stock_mem_distinctTickers {settings : ArchiveSettings} {symbol : String}
    (h : symbol ∈ settings.tickers) : Ticker.stock symbol ∈ distinctTickers settings.tickerList := by
  have hsymbol : symbol ∈ settings.tickerList.map Ticker.symbol :=
    List.mem_map_of_mem (mem_tickerList.mpr (.inl ⟨rfl, h⟩) : Ticker.stock symbol ∈ _)
  rw [← mem_map_distinctBy Ticker.symbol] at hsymbol
  obtain ⟨⟨symbol', kind⟩, ht, rfl⟩ := List.mem_map.mp hsymbol
  rcases mem_tickerList.mp ((distinctAfter_sublist _ _ _).subset ht) with ⟨hkind, -⟩ | ⟨hkind, -⟩
  · cases hkind
    exact ht
  · cases hkind
    exact absurd h (index_mem_distinctTickers_iff.mp ht).2

end ArchiveSettings

namespace Snapshot

section Gathering

variable {a : Archive} {settings : ArchiveSettings} {start stop : Instant} {got : Gathered}
  {expansions : List (Ticker × List Ticker)} {calendar : List Instant}

/-- What a ticker stands for: an index for its constituents, any other ticker for itself. -/
def standsFor (a : Archive) (first last : Date) (t : Ticker) : Except DataError (List Ticker) :=
  if t.kind = .index then listed a first last t else .ok [t]

theorem expansion_eq (first last : Date) :
    expansion a first last = fun t => (do pure (t, ← standsFor a first last t)) := by
  funext t
  unfold expansion standsFor
  by_cases hkind : t.kind = .index
  · rw [if_pos hkind, if_pos hkind]
  · rw [if_neg hkind, if_neg hkind]
    rfl

theorem Gathers.mem_expansions_iff (h : Gathers a settings start stop got expansions calendar)
    {t : Ticker} {stocks : List Ticker} :
    (t, stocks) ∈ expansions ↔ t ∈ distinctTickers settings.tickerList ∧
      standsFor a settings.start settings.stop t = .ok stocks := by
  have hall := h.expansions_eq
  rw [expansion_eq] at hall
  rw [mem_mapM_pair_iff hall, h.requested_eq]

theorem Gathers.map_fst_expansions (h : Gathers a settings start stop got expansions calendar) :
    expansions.map Prod.fst = distinctTickers settings.tickerList := by
  have hall := h.expansions_eq
  rw [expansion_eq] at hall
  rw [map_fst_mapM_pair hall, h.requested_eq]

theorem listed_eq_ok_iff {first last : Date} {t : Ticker} {stocks : List Ticker} :
    listed a first last t = .ok stocks ↔ ∃ spans, a.constituents t.symbol = .ok spans ∧
      stocks = (spans.filter fun span => span.overlaps first last).map fun span => .stock span.symbol := by
  rw [listed, bind_eq_ok_iff]
  simp only [pure, Except.pure, Except.ok.injEq, eq_comm]

theorem Gathers.kind_of_mem (h : Gathers a settings start stop got expansions calendar) :
    ∀ t ∈ expansions.flatMap Prod.snd, t.kind = .stock := by
  intro t ht
  obtain ⟨⟨ticker, stocks⟩, he, hstocks⟩ := List.mem_flatMap.mp ht
  obtain ⟨hrequested, hstands⟩ := h.mem_expansions_iff.mp he
  unfold standsFor at hstands
  by_cases hkind : ticker.kind = .index
  · rw [if_pos hkind] at hstands
    obtain ⟨spans, -, rfl⟩ := listed_eq_ok_iff.mp hstands
    obtain ⟨span, -, rfl⟩ := List.mem_map.mp hstocks
    rfl
  · rw [if_neg hkind] at hstands
    cases hstands
    have hticker := ArchiveSettings.mem_tickerList.mp ((distinctAfter_sublist _ _ _).subset hrequested)
    rw [List.mem_singleton.mp hstocks]
    rcases hticker with ⟨hstock, -⟩ | ⟨hindex, -⟩
    · exact hstock
    · exact absurd hindex hkind

/-- The constituents of an index are kept when it is not called like a stock. -/
theorem Gathers.lookup_members (h : Gathers a settings start stop got expansions calendar)
    {index : String} (hindex : index ∈ settings.indices) (hname : index ∉ settings.tickers) :
    ∃ spans, a.constituents index = .ok spans ∧
      got.members.lookup index = some (settings.constituents spans) := by
  have hrequested := ArchiveSettings.index_mem_distinctTickers_iff.mpr ⟨hindex, hname⟩
  have hmem := hrequested
  rw [← h.map_fst_expansions] at hmem
  obtain ⟨⟨t, stocks⟩, he, rfl⟩ := List.mem_map.mp hmem
  have hstands := (h.mem_expansions_iff.mp he).2
  obtain ⟨spans, hspans, rfl⟩ := listed_eq_ok_iff.mp ((if_pos rfl).symm.trans hstands)
  refine ⟨spans, hspans, ?_⟩
  -- No two tickers of the settings have one symbol.
  have hsymbols : ((expansions.filter fun e => e.1.kind == .index).map fun e => e.1.symbol).Nodup := by
    have hall := nodup_map_distinctBy Ticker.symbol settings.tickerList
    rw [← distinctTickers, ← h.map_fst_expansions, List.map_map] at hall
    exact hall.sublist (List.filter_sublist.map _)
  rw [h.members_eq]
  refine lookup_of_mem_of_nodup ?_ (List.mem_map.mpr ⟨_, List.mem_filter.mpr ⟨he, rfl⟩, rfl⟩)
  rw [List.map_map]
  exact hsymbols

theorem Gathers.lookup_members_of_named (h : Gathers a settings start stop got expansions calendar)
    {index : String} (hname : ¬ (index ∈ settings.indices ∧ index ∉ settings.tickers)) :
    got.members.lookup index = none := by
  rw [h.members_eq, List.lookup_eq_none_iff]
  intro p hp
  obtain ⟨⟨t, stocks⟩, he, rfl⟩ := List.mem_map.mp hp
  obtain ⟨hmem, hkind⟩ := List.mem_filter.mp he
  have hrequested := (h.mem_expansions_iff.mp hmem).1
  rw [bne_iff_ne]
  rintro rfl
  have hticker : t = Ticker.index t.symbol := by
    obtain ⟨symbol, kind⟩ := t
    cases eq_of_beq hkind
    rfl
  rw [hticker] at hrequested
  exact hname (ArchiveSettings.index_mem_distinctTickers_iff.mp hrequested)

theorem Gathers.mem_instruments_iff (h : Gathers a settings start stop got expansions calendar)
    {t : Ticker} : t ∈ distinctTickers (expansions.flatMap Prod.snd) ↔
      ∃ e ∈ expansions, t ∈ e.2 := by
  rw [mem_distinctTickers_of_stocks h.kind_of_mem, List.mem_flatMap]

theorem Gathers.mem_instruments_of_constituent
    (h : Gathers a settings start stop got expansions calendar) {index : String}
    (hindex : index ∈ settings.indices) (hname : index ∉ settings.tickers) {spans : List InstrumentSpan}
    (hspans : a.constituents index = .ok spans) {t : Ticker} (ht : t ∈ settings.constituents spans) :
    t ∈ distinctTickers (expansions.flatMap Prod.snd) := by
  have hstands : standsFor a settings.start settings.stop (.index index) =
      .ok ((spans.filter fun span => span.overlaps settings.start settings.stop).map fun span =>
        .stock span.symbol) := by
    refine (if_pos rfl).trans (listed_eq_ok_iff.mpr ⟨spans, hspans, rfl⟩)
  have hrequested := ArchiveSettings.index_mem_distinctTickers_iff.mpr ⟨hindex, hname⟩
  rw [h.mem_instruments_iff]
  exact ⟨_, h.mem_expansions_iff.mpr ⟨hrequested, hstands⟩, (distinctAfter_sublist _ _ _).subset ht⟩

theorem Gathers.mem_instruments_of_stock
    (h : Gathers a settings start stop got expansions calendar) {symbol : String}
    (hsymbol : symbol ∈ settings.tickers) :
    Ticker.stock symbol ∈ distinctTickers (expansions.flatMap Prod.snd) := by
  have hrequested := ArchiveSettings.stock_mem_distinctTickers hsymbol
  rw [h.mem_instruments_iff]
  exact ⟨(.stock symbol, [.stock symbol]), h.mem_expansions_iff.mpr ⟨hrequested, rfl⟩,
    List.mem_singleton_self _⟩

end Gathering

/-- A snapshot is loaded from what was gathered. -/
structure LoadedFrom (a : Archive) (settings : ArchiveSettings) (s : Snapshot) (got : Gathered)
    (expansions : List (Ticker × List Ticker)) (calendar : List Instant) : Prop extends
    Gathers a settings (.startOf settings.start) ⟨settings.stop, .lastSecond⟩ got expansions calendar where
  tables_eq : loadedTables settings.fieldMap got.loaded = .ok s.tables
  same_members : s.members = got.members
  same_frequency : s.frequency = got.frequency

theorem exists_loadedFrom {a : Archive} {settings : ArchiveSettings} {s : Snapshot}
    (h : (load a settings).result = .ok s) :
    ∃ got expansions calendar, LoadedFrom a settings s got expansions calendar := by
  obtain ⟨got, hgot, htables, hmembers, hfrequency, -⟩ := of_load h
  obtain ⟨expansions, calendar, hgathers⟩ := gathers_of_gather hgot
  exact ⟨got, expansions, calendar, hgathers, htables, hmembers, hfrequency⟩

section Tables

variable {a : Archive} {settings : ArchiveSettings} {s : Snapshot} {got : Gathered}
  {expansions : List (Ticker × List Ticker)} {calendar : List Instant}

theorem mem_loadedTables_iff {map : List (String × PriceField)}
    {loaded : List (Ticker × Option (Table × List String))} {tables : List (Ticker × Table)}
    (h : loadedTables map loaded = .ok tables) {t : Ticker} {u : Table} :
    (t, u) ∈ tables ↔ ∃ table missing, (t, some (table, missing)) ∈ loaded ∧
      withPrices map table = .ok u := by
  rw [mem_mapM_iff h]
  constructor
  · rintro ⟨⟨t', table⟩, he, hstep⟩
    obtain ⟨u', hu, hpair⟩ := bind_eq_ok_iff.mp hstep
    cases hpair
    obtain ⟨⟨t', got?⟩, hmem, hgot⟩ := List.mem_filterMap.mp he
    obtain ⟨⟨table', missing⟩, rfl, hpair⟩ := Option.map_eq_some_iff.mp hgot
    cases hpair
    exact ⟨_, missing, hmem, hu⟩
  · rintro ⟨table, missing, hmem, hu⟩
    exact ⟨(t, table), List.mem_filterMap.mpr ⟨_, hmem, rfl⟩, bind_eq_ok_iff.mpr ⟨u, hu, rfl⟩⟩

theorem map_fst_loadedTables_sublist {map : List (String × PriceField)}
    {loaded : List (Ticker × Option (Table × List String))} {tables : List (Ticker × Table)}
    (h : loadedTables map loaded = .ok tables) :
    (tables.map Prod.fst).Sublist (loaded.map Prod.fst) := by
  rw [loadedTables, mapM_eq_ok_iff] at h
  induction loaded generalizing tables with
  | nil =>
    rw [List.map_eq_nil_iff.mp h.symm]
    exact List.nil_sublist _
  | cons e rest ih =>
    obtain ⟨t, _ | ⟨table, missing⟩⟩ := e
    · exact (ih h).cons t
    · cases tables with
      | nil => cases h
      | cons entry more =>
        obtain ⟨hstep, hrest⟩ := List.cons.inj h
        obtain ⟨u, -, hpair⟩ := bind_eq_ok_iff.mp hstep
        cases hpair
        exact (ih hrest).cons_cons t

/-- The tables are those of the instruments that have files, with the columns for their prices. -/
theorem LoadedFrom.mem_tables_iff (h : LoadedFrom a settings s got expansions calendar) {t : Ticker}
    {u : Table} :
    (t, u) ∈ s.tables ↔ t ∈ distinctTickers (expansions.flatMap Prod.snd) ∧
      ∃ table missing, a.load t.symbol (distinctBy id settings.fields) s.frequency calendar.toArray
        (.startOf settings.start) ⟨settings.stop, .lastSecond⟩ = .ok (some (table, missing)) ∧
        withPrices settings.fieldMap table = .ok u := by
  rw [mem_loadedTables_iff h.tables_eq, h.same_frequency]
  have hloaded := h.loaded_eq
  rw [loadAll] at hloaded
  simp only [mem_mapM_pair_iff hloaded]
  constructor
  · rintro ⟨table, missing, ⟨ht, hload⟩, hu⟩
    exact ⟨ht, table, missing, hload, hu⟩
  · rintro ⟨ht, table, missing, hload, hu⟩
    exact ⟨table, missing, ⟨ht, hload⟩, hu⟩

theorem LoadedFrom.nodup_symbols (h : LoadedFrom a settings s got expansions calendar) :
    (s.tables.map fun e => e.1.symbol).Nodup := by
  have hloaded : got.loaded.map Prod.fst = distinctTickers (expansions.flatMap Prod.snd) :=
    map_fst_mapM_pair h.loaded_eq
  have hall := nodup_map_distinctBy Ticker.symbol (expansions.flatMap Prod.snd)
  rw [← distinctTickers, ← hloaded] at hall
  have htables := hall.sublist ((map_fst_loadedTables_sublist h.tables_eq).map Ticker.symbol)
  rwa [List.map_map] at htables

theorem LoadedFrom.table?_eq_some_iff (h : LoadedFrom a settings s got expansions calendar)
    {symbol : String} {u : Table} : s.table? symbol = some u ↔ (.stock symbol, u) ∈ s.tables := by
  rw [table?, Option.map_eq_some_iff]
  constructor
  · rintro ⟨⟨⟨symbol', kind⟩, u'⟩, hfind, rfl⟩
    have hmem := List.mem_of_find?_eq_some hfind
    have hsymbol : symbol' = symbol := by simpa using List.find?_some hfind
    have hkind := h.kind_of_mem _ ((distinctAfter_sublist _ _ _).subset (h.mem_tables_iff.mp hmem).1)
    cases hsymbol
    cases hkind
    exact hmem
  · intro hmem
    exact ⟨_, find?_of_mem_of_nodup (fun e : Ticker × Table => e.1.symbol) h.nodup_symbols hmem, rfl⟩

theorem LoadedFrom.isSome_table?_iff (h : LoadedFrom a settings s got expansions calendar)
    {symbol : String} :
    (s.table? symbol).isSome ↔ Ticker.stock symbol ∈ distinctTickers (expansions.flatMap Prod.snd) ∧
      a.HasFile symbol settings.fields s.frequency := by
  rw [Option.isSome_iff_exists, ← Archive.hasFile_distinctBy]
  simp only [h.table?_eq_some_iff, h.mem_tables_iff]
  constructor
  · rintro ⟨u, hinstrument, table, missing, hload, -⟩
    exact ⟨hinstrument, (Archive.isSome_load_iff hload).mp rfl⟩
  · rintro ⟨hinstrument, hfile⟩
    have hmem := hinstrument
    rw [← map_fst_mapM_pair h.loaded_eq] at hmem
    obtain ⟨⟨t, got?⟩, he, rfl⟩ := List.mem_map.mp hmem
    have hload := ((mem_mapM_pair_iff h.loaded_eq).mp he).2
    rw [h.same_frequency] at hfile ⊢
    obtain ⟨⟨table, missing⟩, rfl⟩ := Option.isSome_iff_exists.mp
      ((Archive.isSome_load_iff hload).mpr hfile)
    obtain ⟨u, hu, -⟩ := exists_withPrices settings.fieldMap (Table.Copies.refl table)
    exact ⟨u, hinstrument, table, missing, hload, hu⟩

theorem LoadedFrom.mem_tickers_iff (h : LoadedFrom a settings s got expansions calendar)
    {symbol : String} :
    Ticker.stock symbol ∈ s.tickers ↔
      Ticker.stock symbol ∈ distinctTickers (expansions.flatMap Prod.snd) ∧
        a.HasFile symbol settings.fields s.frequency := by
  rw [← h.isSome_table?_iff, Option.isSome_iff_exists, tickers, List.mem_map]
  simp only [h.table?_eq_some_iff]
  constructor
  · rintro ⟨⟨t, u⟩, hmem, rfl⟩
    exact ⟨u, hmem⟩
  · rintro ⟨u, hmem⟩
    exact ⟨_, hmem, rfl⟩

/-- The timestamps of all tables can be read, since none is after the last second of the settings. -/
theorem LoadedFrom.exists_instant (h : LoadedFrom a settings s got expansions calendar) :
    ∀ symbol table, s.table? symbol = some table → ∀ row ∈ table.rows, ∃ d, row.instant? = some d := by
  intro symbol u hu row hrow
  obtain ⟨-, table, missing, hload, hprices⟩ := h.mem_tables_iff.mp (h.table?_eq_some_iff.mp hu)
  obtain ⟨u', hu', hcopies⟩ := exists_withPrices settings.fieldMap (Table.Copies.refl table)
  cases hprices.symm.trans hu'
  -- Mappings do not touch the timestamps.
  obtain ⟨lay, hlay, hstamp, -⟩ := hcopies.rows
  rw [hlay] at hrow
  obtain ⟨bare, hbare, rfl⟩ := List.mem_map.mp hrow
  obtain ⟨d, ⟨-, hd⟩, hmoment⟩ := Archive.exists_instant_of_load hload bare hbare
  obtain ⟨v, hv⟩ := Instant.exists_ofMillis? d.le_millis (Instant.millis_lt_endMillis_of_le rfl hd)
  refine ⟨v, ?_⟩
  rw [Row.instant?, hstamp, hmoment]
  exact hv

end Tables

end Snapshot

end MarketBars
