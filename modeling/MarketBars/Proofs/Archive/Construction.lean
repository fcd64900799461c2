import MarketBars.Proofs.Archive.Extent
import MarketBars.Proofs.Archive.Serving

/-!
# Loading each instrument once

The settings of an archive mention symbols: their stocks, and then the listed constituents of their indices.
A symbol can be mentioned many times, by repeated settings, by repeated rows of an index and by indices that
share it. It is loaded at its first mention, and once. The instruments of a snapshot are the mentioned
symbols that have a file, and only the stocks of the settings are noted when they have none.
-/

namespace MarketBars

/-- The rows of an index, if there are any that can be read. -/
def Archive.spans (a : Archive) (index : String) : List InstrumentSpan :=
  (a.constituents index).toOption.getD []

/-- The calendar, the indices and the fields that some settings ask for can be read, and so can the factors.
No file of a field goes past the largest position. -/
structure Archive.WellFormed (a : Archive) (settings : ArchiveSettings) (f : Frequency) : Prop where
  calendar_ok : ∃ calendar, a.calendar f = .ok calendar
  constituents_ok : ∀ index ∈ settings.indices, a.constituents index = .ok (a.spans index)
  feature_ok : ∀ symbol, ∀ field ∈ Archive.factorField :: settings.fields,
    ∃ series?, a.feature symbol field f = .ok series?
  fits : ∀ symbol, a.Fits symbol settings.fields f

/-- Every instrument can be loaded, with or without a table. -/
theorem Archive.WellFormed.exists_load {a : Archive} {settings : ArchiveSettings} {f : Frequency}
    (ha : a.WellFormed settings f) (hfields : Table.stampName ∉ settings.fields) (symbol : String)
    (calendar : Array Instant) (start stop : Instant) :
    ∃ got?, a.load symbol (distinctBy id settings.fields) f calendar start stop = .ok got? := by
  have hsubset : distinctBy id settings.fields ⊆ settings.fields := (distinctAfter_sublist _ _ _).subset
  refine Archive.exists_load_of_fits calendar start stop ?_ (fun hstamp => hfields (hsubset hstamp)) ?_ ?_
  · simpa using nodup_map_distinctBy id settings.fields
  · exact fun field hfield => ha.feature_ok symbol field (List.cons_subset_cons _ hsubset hfield)
  · exact fun field hfield => ha.fits symbol field (hsubset hfield)

namespace ArchiveSettings

/-- The constituents of an index that were listed in the range of the settings, in the order of their file. -/
def listedSymbols (settings : ArchiveSettings) (a : Archive) (index : String) : List String :=
  ((a.spans index).filter fun span => span.overlaps settings.start settings.stop).map InstrumentSpan.symbol

/-- The symbols that the settings mention, with all repeats: their stocks, and then the listed constituents of
each of their indices. -/
def mentions (settings : ArchiveSettings) (a : Archive) : List String :=
  settings.tickers ++ settings.indices.flatMap (settings.listedSymbols a)

/-- The distinct tickers of the settings, with what they stand for. -/
def expansions (settings : ArchiveSettings) (a : Archive) : List (Ticker × List Ticker) :=
  (distinctBy id settings.tickers).map (fun symbol => (.stock symbol, [.stock symbol])) ++
    (distinctBy id settings.indices).map fun index =>
      (.index index, (settings.listedSymbols a index).map .stock)

/-- Where no index is called like a stock, the distinct tickers are the distinct stocks and then the distinct
indices. -/
theorem distinctTickers_tickerList {settings : ArchiveSettings}
    (hnames : ∀ index ∈ settings.indices, index ∉ settings.tickers) :
    distinctTickers settings.tickerList =
      (distinctBy id settings.tickers).map .stock ++ (distinctBy id settings.indices).map .index := by
  have hstocks : (settings.tickers.map Ticker.stock).map Ticker.symbol = settings.tickers := by
    rw [List.map_map]
    exact List.map_id _
  have hindices : distinctAfter id settings.tickers settings.indices = distinctBy id settings.indices :=
    distinctAfter_congr id fun index hindex => iff_of_false (hnames index hindex) List.not_mem_nil
  rw [distinctTickers, tickerList, distinctBy_append, hstocks, distinctBy_map, distinctAfter_map, ← hindices]
  rfl

end ArchiveSettings

/-- Those of some mentioned symbols that pass a test, each of them once and in the order in which they are
first mentioned. -/
structure FirstMentions (mentions : List String) (passes : String → Prop) (symbols : List String) :
    Prop where
  mem_iff : ∀ symbol, symbol ∈ symbols ↔ symbol ∈ mentions ∧ passes symbol
  /-- The order is strict, so no symbol stands in two places. -/
  ordered : symbols.Pairwise fun a b => mentions.idxOf a < mentions.idxOf b

namespace FirstMentions

variable {mentions symbols symbols' : List String} {passes : String → Prop}

theorem unique (h : FirstMentions mentions passes symbols) (h' : FirstMentions mentions passes symbols') :
    symbols = symbols' :=
  eq_of_ascending (fun _ _ => Nat.lt_asymm) h.ordered h'.ordered fun symbol =>
    (h.mem_iff symbol).trans (h'.mem_iff symbol).symm

/-- A part of the distinct mentions is in the order of first mention. -/
theorem of_sublist (h : symbols.Sublist (distinctBy id mentions))
    (hmem : ∀ symbol, symbol ∈ symbols ↔ symbol ∈ mentions ∧ passes symbol) :
    FirstMentions mentions passes symbols :=
  ⟨hmem, (pairwise_idxOf_distinctAfter [] mentions).sublist h⟩

/-- What only the first part of the mentions can add does not depend on the others. -/
theorem of_append {before after : List String}
    (h : FirstMentions (before ++ after) (fun symbol => symbol ∈ before ∧ passes symbol) symbols) :
    FirstMentions before passes symbols := by
  have hbefore : ∀ symbol ∈ symbols, symbol ∈ before := fun symbol hsymbol =>
    ((h.mem_iff symbol).mp hsymbol).2.1
  refine ⟨fun symbol => (h.mem_iff symbol).trans ?_, h.ordered.imp_of_mem fun ha hb hlt => ?_⟩
  · exact and_iff_right_of_imp fun hboth => List.mem_append_left after hboth.1
  · rwa [List.idxOf_append, List.idxOf_append, if_pos (hbefore _ ha), if_pos (hbefore _ hb)] at hlt

end FirstMentions

namespace Snapshot

variable {a : Archive} {settings : ArchiveSettings} {f : Frequency} {start stop : Instant}
  {got : Gathered} {expansions : List (Ticker × List Ticker)} {calendar : List Instant}

theorem mapM_expansion (hnames : ∀ index ∈ settings.indices, index ∉ settings.tickers)
    (ha : a.WellFormed settings f) :
    (distinctTickers settings.tickerList).mapM (expansion a settings.start settings.stop) =
      .ok (settings.expansions a) := by
  have hindex : ∀ index ∈ distinctBy id settings.indices,
      expansion a settings.start settings.stop (.index index) =
        .ok (.index index, (settings.listedSymbols a index).map .stock) := by
    intro index hindex
    have hspans := ha.constituents_ok index ((distinctAfter_sublist _ _ _).subset hindex)
    have hlisted := (@listed_eq_ok_iff a settings.start settings.stop (.index index) _).mpr
      ⟨_, hspans, rfl⟩
    rw [ArchiveSettings.listedSymbols, List.map_map]
    exact (if_pos rfl).trans (bind_eq_ok_iff.mpr ⟨_, hlisted, rfl⟩)
  rw [mapM_eq_ok_iff, ArchiveSettings.distinctTickers_tickerList hnames, ArchiveSettings.expansions]
  simp only [List.map_append, List.map_map]
  exact congrArg (_ ++ ·) (List.map_congr_left hindex)

theorem distinctTickers_expansions (settings : ArchiveSettings) (a : Archive) :
    distinctTickers ((settings.expansions a).flatMap Prod.snd) =
      (distinctBy id (settings.mentions a)).map Ticker.stock := by
  have hflat : (settings.expansions a).flatMap Prod.snd =
      (distinctBy id settings.tickers ++
        (distinctBy id settings.indices).flatMap (settings.listedSymbols a)).map Ticker.stock := by
    rw [ArchiveSettings.expansions, List.flatMap_append, List.flatMap_map, List.flatMap_map,
      List.map_append, List.map_flatMap, List.map_eq_flatMap]
  -- Neither a repeated stock nor a repeated index comes with a symbol that was not there before.
  have hrepeats : distinctBy id (distinctBy id settings.tickers ++
      (distinctBy id settings.indices).flatMap (settings.listedSymbols a)) =
        distinctBy id (settings.mentions a) := by
    rw [distinctBy_append_left, ArchiveSettings.mentions, distinctBy_append, distinctBy_append]
    refine congrArg (_ ++ ·) (distinctAfter_flatMap id _ ?_ _)
    exact fun _ hnone => absurd hnone List.not_mem_nil
  rw [hflat, distinctTickers, distinctBy_map, ← hrepeats]
  rfl

/-- All that the settings mention is looked up, each symbol once. -/
theorem exists_gathers (hfrequency : frequencySetting settings.frequency = .ok f)
    (hnames : ∀ index ∈ settings.indices, index ∉ settings.tickers)
    (hfields : Table.stampName ∉ settings.fields) (ha : a.WellFormed settings f) (start stop : Instant) :
    ∃ got calendar, Gathers a settings start stop got (settings.expansions a) calendar ∧
      got.frequency = f := by
  obtain ⟨calendar, hcalendar⟩ := ha.calendar_ok
  obtain ⟨loaded, hloaded⟩ := @exists_mapM_pair _ _ _
    (fun t => a.load t.symbol (distinctBy id settings.fields) f calendar.toArray start stop)
    (distinctTickers ((settings.expansions a).flatMap Prod.snd))
    fun t _ => ha.exists_load hfields t.symbol calendar.toArray start stop
  exact ⟨⟨f, _, _, loaded⟩, calendar, ⟨hfrequency, rfl, mapM_expansion hnames ha, hcalendar, hloaded, rfl⟩,
    rfl⟩

theorem stock_mem_map_stock {symbol : String} {symbols : List String} :
    Ticker.stock symbol ∈ symbols.map Ticker.stock ↔ symbol ∈ symbols := by
  simp [Ticker.stock]

theorem mem_instruments_iff {symbol : String} :
    Ticker.stock symbol ∈ distinctTickers ((settings.expansions a).flatMap Prod.snd) ↔
      symbol ∈ settings.mentions a := by
  rw [distinctTickers_expansions, stock_mem_map_stock]
  simpa using mem_map_distinctBy id (settings.mentions a) symbol

theorem Gathers.map_fst_loaded (h : Gathers a settings start stop got (settings.expansions a) calendar) :
    got.loaded.map Prod.fst = (distinctBy id (settings.mentions a)).map Ticker.stock :=
  (map_fst_mapM_pair h.loaded_eq).trans (distinctTickers_expansions settings a)

theorem Gathers.isNamed_iff (h : Gathers a settings start stop got expansions calendar) {t : Ticker} :
    isNamed got.requested t = true ↔ t.symbol ∈ settings.tickers := by
  rw [isNamed, h.requested_eq, List.any_eq_true]
  constructor
  · rintro ⟨u, hu, hsame⟩
    obtain ⟨hkind, hsymbol⟩ := Bool.and_eq_true_iff.mp hsame
    rcases ArchiveSettings.mem_tickerList.mp ((distinctAfter_sublist _ _ _).subset hu) with
      ⟨-, hstock⟩ | ⟨hindex, -⟩
    · exact eq_of_beq hsymbol ▸ hstock
    · rw [hindex] at hkind
      cases hkind
  · intro hstock
    exact ⟨_, ArchiveSettings.stock_mem_distinctTickers hstock, by simp [Ticker.same, Ticker.stock]⟩

/-- The tickers of a snapshot are the mentioned symbols that have a file. -/
theorem LoadedFrom.exists_kept {s : Snapshot}
    (h : LoadedFrom a settings s got (settings.expansions a) calendar) :
    ∃ kept, s.tickers = kept.map Ticker.stock ∧
      FirstMentions (settings.mentions a) (fun symbol => a.HasFile symbol settings.fields s.frequency)
        kept := by
  have hpart := map_fst_loadedTables_sublist h.tables_eq
  rw [h.map_fst_loaded, List.sublist_map_iff] at hpart
  obtain ⟨kept, hkept, htickers⟩ := hpart
  refine ⟨kept, htickers, .of_sublist hkept fun symbol => ?_⟩
  rw [← stock_mem_map_stock, ← htickers, ← mem_instruments_iff]
  exact h.mem_tickers_iff

def lackNote (symbol : String) : Diagnostic :=
  .sourceUnavailable symbol "no feature files in the archive"

/-- The instruments without files that were asked for by name. -/
def lacking (requested : List Ticker) (loaded : List (Ticker × Option (Table × List String))) :
    List String :=
  (loaded.filter fun e => isNamed requested e.1 && e.2.isNone).map fun e => e.1.symbol

theorem filter_loadNote (requested : List Ticker) (t : Ticker) (got? : Option (Table × List String)) :
    (loadNote requested t got?).filter (fun note => note.unavailable?.isSome) =
      if isNamed requested t && got?.isNone then [lackNote t.symbol] else [] := by
  cases got? with
  | none =>
    rw [loadNote, Option.isNone_none, Bool.and_true]
    split <;> rfl
  | some got =>
    obtain ⟨table, missing⟩ := got
    rw [loadNote, Option.isNone_some, Bool.and_false, if_neg Bool.false_ne_true]
    split <;> rfl

theorem filter_loadNotes (requested : List Ticker)
    (loaded : List (Ticker × Option (Table × List String))) :
    ((loaded.flatMap fun e => loadNote requested e.1 e.2).filter fun note => note.unavailable?.isSome) =
      (lacking requested loaded).map lackNote := by
  induction loaded with
  | nil => rfl
  | cons e rest ih =>
    rw [List.flatMap_cons, List.filter_append, ih, filter_loadNote, lacking, lacking, List.filter_cons]
    split <;> rfl

theorem Gathers.mem_lacking_iff (h : Gathers a settings start stop got (settings.expansions a) calendar)
    {symbol : String} : symbol ∈ lacking got.requested got.loaded ↔
      symbol ∈ settings.tickers ∧ ¬ a.HasFile symbol settings.fields got.frequency := by
  have hload := @mem_mapM_pair_iff _ _ _ _ _ _ h.loaded_eq
  simp only [lacking, List.mem_map, List.mem_filter, Bool.and_eq_true, h.isNamed_iff,
    Option.isNone_iff_eq_none]
  rw [← Archive.hasFile_distinctBy]
  constructor
  · rintro ⟨⟨t, _⟩, ⟨hmem, hnamed, rfl⟩, rfl⟩
    refine ⟨hnamed, fun hfile => ?_⟩
    have hsome := (Archive.isSome_load_iff (hload.mp hmem).2).mpr hfile
    cases hsome
  · rintro ⟨hstock, hfile⟩
    have hinstrument := h.mem_instruments_of_stock hstock
    rw [← map_fst_mapM_pair h.loaded_eq] at hinstrument
    obtain ⟨⟨t, got?⟩, hmem, rfl⟩ := List.mem_map.mp hinstrument
    have hnone := mt (Archive.isSome_load_iff (hload.mp hmem).2).mp hfile
    exact ⟨_, ⟨hmem, hstock, Option.not_isSome_iff_eq_none.mp hnone⟩, rfl⟩

/-- The instruments without files that are noted, in the order in which the settings name them. -/
theorem Gathers.firstMentions_lacking
    (h : Gathers a settings start stop got (settings.expansions a) calendar) :
    FirstMentions settings.tickers (fun symbol => ¬ a.HasFile symbol settings.fields got.frequency)
      (lacking got.requested got.loaded) := by
  have hsymbols : (got.loaded.map fun e => e.1.symbol) = distinctBy id (settings.mentions a) := by
    have hmap := congrArg (List.map Ticker.symbol) h.map_fst_loaded
    rw [List.map_map, List.map_map] at hmap
    exact hmap.trans (List.map_id _)
  have hpart : (lacking got.requested got.loaded).Sublist (distinctBy id (settings.mentions a)) :=
    hsymbols ▸ List.filter_sublist.map _
  have hfirst : FirstMentions (settings.mentions a)
      (fun symbol => symbol ∈ settings.tickers ∧ ¬ a.HasFile symbol settings.fields got.frequency)
      (lacking got.requested got.loaded) := by
    refine .of_sublist hpart fun symbol => h.mem_lacking_iff.trans ?_
    exact (and_iff_right_of_imp fun hboth => List.mem_append_left _ hboth.1).symm
  -- The stocks of the settings are mentioned before all constituents.
  rw [ArchiveSettings.mentions] at hfirst
  exact hfirst.of_append

/-- The instruments of a snapshot are the mentioned symbols that have a file for some field, each of them
once and in the order of first mention. The stocks of the settings without a file are noted, in their order,
and no constituent is. When no mentioned symbol has a file there is no data, and that is the only way in which
files that can be read fail to make a snapshot. -/
theorem loads_each_once (hfrequency : frequencySetting settings.frequency = .ok f)
    (hnames : ∀ index ∈ settings.indices, index ∉ settings.tickers)
    (hfields : Table.stampName ∉ settings.fields) (ha : a.WellFormed settings f) :
    ∃ kept lacking : List String,
      FirstMentions (settings.mentions a) (fun symbol => a.HasFile symbol settings.fields f) kept ∧
      FirstMentions settings.tickers (fun symbol => ¬ a.HasFile symbol settings.fields f) lacking ∧
      ((load a settings).diagnostics.filter fun note => note.unavailable?.isSome) =
        lacking.map (fun symbol => .sourceUnavailable symbol "no feature files in the archive") ∧
      (kept = [] → (load a settings).result = .error (.error (.noDataFound
        (String.intercalate ", " (distinctBy id settings.tickers ++ distinctBy id settings.indices))))) ∧
      (kept ≠ [] → ∃ s, (load a settings).result = .ok s ∧ s.tickers = kept.map Ticker.stock) := by
  obtain ⟨got, calendar, h, rfl⟩ := exists_gathers hfrequency hnames hfields ha
    (.startOf settings.start) ⟨settings.stop, .lastSecond⟩
  obtain ⟨s, htables, hmembers, hs, hnotes, hnone, hsome⟩ := load_of_gather h.gather_eq
  have hloaded : LoadedFrom a settings s got (settings.expansions a) calendar :=
    ⟨h, htables, hmembers, hs⟩
  obtain ⟨kept, htickers, hkept⟩ := hloaded.exists_kept
  have hempty : kept = [] ↔ s.tables = [] := by
    have hlength := congrArg List.length htickers
    rw [tickers, List.length_map, List.length_map] at hlength
    rw [← List.length_eq_zero_iff, ← List.length_eq_zero_iff, hlength]
  have hrequested : got.requested.map Ticker.symbol =
      distinctBy id settings.tickers ++ distinctBy id settings.indices := by
    rw [h.requested_eq, ArchiveSettings.distinctTickers_tickerList hnames]
    simp [Function.comp_def, Ticker.stock, Ticker.index]
  refine ⟨kept, lacking got.requested got.loaded, hs ▸ hkept, h.firstMentions_lacking,
    hnotes ▸ filter_loadNotes _ _, fun hnil => ?_, fun hne => ?_⟩
  · rw [hnone (hempty.mp hnil), hrequested]
  · exact ⟨s, hsome (mt hempty.mpr hne), htickers⟩

/-- Settings that name a stock and an index twice, and a stock without files. -/
def crowdedSettings : ArchiveSettings :=
  { indexSettings with tickers := ["B", "Z", "B"], indices := ["I", "J", "I"] }

/-- An archive in which both indices have the same rows: a stock that is listed twice, one that the settings
name as well, one that is listed after the range of the settings, and one without files. -/
def crowdedArchive : Archive :=
  twoDaysOf [listedBoth "A", listedBoth "B", listedBoth "A",
    ⟨"C", ⟨20091, by decide, by decide⟩, ⟨20091, by decide, by decide⟩⟩, listedBoth "D"] ["A", "B", "C"]

theorem wellFormed_twoDaysOf (spans : List InstrumentSpan) (filed : List String)
    (settings : ArchiveSettings) (f : Frequency) : (twoDaysOf spans filed).WellFormed settings f where
  calendar_ok := ⟨_, rfl⟩
  constituents_ok _ _ := rfl
  feature_ok _ _ _ := ⟨_, rfl⟩
  fits symbol := fits_twoDaysOf symbol settings.fields f

/-- Two stocks are loaded, the one that is named by the settings first. -/
theorem loads_each_once_crowdedArchive :
    ∃ s, (load crowdedArchive crowdedSettings).result = .ok s ∧ s.tickers = [.stock "B", .stock "A"] ∧
      ((load crowdedArchive crowdedSettings).diagnostics.filter fun note => note.unavailable?.isSome) =
        [.sourceUnavailable "Z" "no feature files in the archive"] := by
  obtain ⟨kept, lacking, hkept, hlacking, hnotes, -, hsome⟩ := @loads_each_once crowdedArchive
    crowdedSettings .daily rfl (by decide) (by decide) (wellFormed_twoDaysOf _ _ _ _)
  have hmentions : crowdedSettings.mentions crowdedArchive =
      ["B", "Z", "B", "A", "B", "A", "D", "A", "B", "A", "D", "A", "B", "A", "D"] := by decide
  have hfile : ∀ symbol, crowdedArchive.HasFile symbol crowdedSettings.fields .daily ↔
      symbol ∈ ["A", "B", "C"] := fun _ => hasFile_twoDaysOf
  have hkept' : kept = ["B", "A"] := by
    refine hkept.unique ⟨fun symbol => ?_, by rw [hmentions]; decide⟩
    simp only [hmentions, hfile, List.mem_cons, List.not_mem_nil, or_false]
    grind
  have hlacking' : lacking = ["Z"] := by
    refine hlacking.unique ⟨fun symbol => ?_, by decide⟩
    have hstocks : crowdedSettings.tickers = ["B", "Z", "B"] := rfl
    simp only [hstocks, hfile, List.mem_cons, List.not_mem_nil, or_false]
    grind
  obtain ⟨s, hs, htickers⟩ := hsome (by rw [hkept']; decide)
  exact ⟨s, hs, by rw [htickers, hkept']; rfl, by rw [hnotes, hlacking']; rfl⟩

end Snapshot

end MarketBars
