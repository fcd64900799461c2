import MarketBars.Proofs.Archive.Extent
import MarketBars.Proofs.Archive.Loaded
import MarketBars.Proofs.Archive.NonDisclosure

/-!
# The constituents of an index

An index stands for all constituents that were listed in the range of the settings, whether they have files
or not. A constituent without files is not among the tickers of the snapshot, but it is in the answer to a
request for the index: as a column without values, and with a note that its source is unavailable. An index
that is called like a stock of the settings is not looked up at all.
-/

namespace MarketBars

namespace Snapshot

section Requests

variable {σ : Type} {s : Snapshot}

theorem expand_append (s : Snapshot) (before after : List Ticker) :
    s.expand (before ++ after) = s.expand before ++ s.expand after :=
  List.flatMap_append

theorem expand_cons (s : Snapshot) (t : Ticker) (rest : List Ticker) :
    s.expand (t :: rest) = s.expand [t] ++ s.expand rest :=
  s.expand_append [t] rest

variable {clock : MarketClock} {r : HistoryRequest}

/-- A served request notes the tickers that have no table. -/
theorem Serves.sourceUnavailable_mem_iff {w : Window} (h : s.Serves clock r w) {symbol : String}
    {state : σ} :
    (∃ reason, .sourceUnavailable symbol reason ∈ (s.history clock r state).diagnostics) ↔
      (∃ t ∈ s.expand r.tickers.toList, t.symbol = symbol) ∧ s.table? symbol = none := by
  obtain ⟨plan, rfl, htickers, hanswer⟩ := @Serves.exists_plan σ _ _ _ _ h
  rw [hanswer, Run.lift, run_fetcher h.not_isEmpty, ← Diagnostic.mem_unavailable_iff, unavailable_notes,
    List.mem_filter, distinctTickers, mem_map_distinctBy, htickers, List.mem_map, Option.isNone_iff_eq_none]

/-- The answer to a request with an index that is expanded is labelled with what the tickers stand for. -/
theorem tickers?_of_expands {history : History} {state : σ}
    (h : (s.history clock r state).result = .ok history)
    (hexpands : s.expands r.tickers.toList = true) :
    history.tickers? = some (s.expand r.tickers.toList) := by
  obtain ⟨window, -, hrun⟩ := of_history_eq_ok h
  rw [hexpands, Bool.not_true, Bool.and_false] at hrun
  obtain ⟨tables, stamps, -, -, rfl⟩ := Plan.run_eq_ok hrun
  exact (Cube.shows_panel _ _ _ _ _).tickers_eq

/-- A ticker without a table has no values in the answer. -/
theorem cell_of_no_table {history : History} {state : σ}
    (h : (s.history clock r state).result = .ok history) (hexpands : s.expands r.tickers.toList = true)
    {t : Ticker} (htable : s.table? t.symbol = none) {k : Nat}
    (hk : (s.expand r.tickers.toList)[k]? = some t) (d f : Nat) : history.cell d k f = none := by
  obtain ⟨window, -, hrun⟩ := of_history_eq_ok h
  generalize hplan : r.plan (s.expand r.tickers.toList)
    (r.tickers.isSingle && !s.expands r.tickers.toList) window s.frequency = plan at hrun
  have hflag : plan.flags.ticker = false := by simp [← hplan, HistoryRequest.plan, hexpands]
  have htickers : plan.tickers[k]? = some t := by rwa [← hplan]
  have hwindows : plan.window = window := by rw [← hplan, HistoryRequest.plan]
  rw [← hwindows] at hrun
  cases hwindow : plan.window.isEmpty with
  | true =>
    rw [hwindow, if_pos rfl] at hrun
    obtain ⟨history', hrun', hshows⟩ := Plan.exists_run_of_isEmpty hwindow
    cases hrun.symm.trans hrun'
    exact hshows.cell_eq_none hflag (fun _ _ _ => rfl) htickers d f
  | false =>
    rw [hwindow, if_neg Bool.false_ne_true] at hrun
    obtain ⟨dates, -, -, hshows⟩ := run_fetcher_shows hwindow hrun
    refine hshows.cell_eq_none hflag (fun date field _ => ?_) htickers d f
    rw [valueIn, slice?, htable]
    rfl

end Requests

section Indices

variable {a : Archive} {settings : ArchiveSettings} {s : Snapshot} {index : String}

theorem LoadedFrom.membersOf?_index {got : Gathered} {expansions : List (Ticker × List Ticker)}
    {calendar : List Instant} (h : LoadedFrom a settings s got expansions calendar)
    (hindex : index ∈ settings.indices) (hname : index ∉ settings.tickers) :
    ∃ spans, a.constituents index = .ok spans ∧
      s.membersOf? (.index index) = some (settings.constituents spans) := by
  obtain ⟨spans, hspans, hlookup⟩ := h.lookup_members hindex hname
  refine ⟨spans, hspans, ?_⟩
  rw [membersOf?, h.same_members]
  exact (if_pos rfl).trans hlookup

theorem membersOf?_index (h : (load a settings).result = .ok s) (hindex : index ∈ settings.indices)
    (hname : index ∉ settings.tickers) :
    ∃ spans, a.constituents index = .ok spans ∧
      s.membersOf? (.index index) = some (settings.constituents spans) := by
  obtain ⟨got, expansions, calendar, hs⟩ := exists_loadedFrom h
  exact hs.membersOf?_index hindex hname

theorem membersOf?_index_of_named (h : (load a settings).result = .ok s)
    (hname : ¬ (index ∈ settings.indices ∧ index ∉ settings.tickers)) :
    s.membersOf? (.index index) = none := by
  obtain ⟨got, expansions, calendar, hs⟩ := exists_loadedFrom h
  rw [membersOf?, hs.same_members]
  exact (if_pos rfl).trans (hs.lookup_members_of_named hname)

/-- Which tickers are replaced depends on the settings only. -/
theorem isSome_membersOf?_iff (h : (load a settings).result = .ok s) {t : Ticker} :
    (s.membersOf? t).isSome ↔
      t.kind = .index ∧ t.symbol ∈ settings.indices ∧ t.symbol ∉ settings.tickers := by
  obtain ⟨symbol, kind⟩ := t
  cases kind with
  | index =>
    rw [eq_self, true_and]
    by_cases hname : symbol ∈ settings.indices ∧ symbol ∉ settings.tickers
    · obtain ⟨spans, -, hmembers⟩ := membersOf?_index h hname.1 hname.2
      exact iff_of_true (Option.isSome_of_eq_some hmembers) hname
    · have hnone := membersOf?_index_of_named h hname
      exact iff_of_false (Option.not_isSome_iff_eq_none.mpr hnone) hname
  | _ => simp [membersOf?]

theorem expand_one_index {members : List Ticker} (h : s.membersOf? (.index index) = some members) :
    s.expand [.index index] = members := by
  rw [expand, List.flatMap_singleton, h]
  rfl

theorem expand_index {members : List Ticker} (h : s.membersOf? (.index index) = some members)
    (before after : List Ticker) :
    s.expand (before ++ .index index :: after) = s.expand before ++ (members ++ s.expand after) := by
  rw [expand_append, expand_cons, expand_one_index h]

theorem expand_index_of_none (h : s.membersOf? (.index index) = none) (before after : List Ticker) :
    s.expand (before ++ .index index :: after) = s.expand before ++ .index index :: s.expand after := by
  have hone : s.expand [.index index] = [.index index] := by
    rw [expand, List.flatMap_singleton, h]
    rfl
  rw [expand_append, expand_cons, hone]
  rfl

theorem expands_of_mem {members : List Ticker} (h : s.membersOf? (.index index) = some members)
    {tickers : List Ticker} (hmem : .index index ∈ tickers) : s.expands tickers = true := by
  rw [expands, List.any_eq_true]
  exact ⟨_, hmem, by rw [h]; rfl⟩

/-- A listed constituent of an index has a table when it has a file. -/
theorem isSome_table?_constituent_iff (h : (load a settings).result = .ok s)
    (hindex : index ∈ settings.indices) (hname : index ∉ settings.tickers) {spans : List InstrumentSpan}
    (hspans : a.constituents index = .ok spans) {t : Ticker} (ht : t ∈ settings.constituents spans) :
    (s.table? t.symbol).isSome ↔ a.HasFile t.symbol settings.fields s.frequency := by
  obtain ⟨got, expansions, calendar, hs⟩ := exists_loadedFrom h
  have hinstrument := hs.mem_instruments_of_constituent hindex hname hspans ht
  obtain ⟨span, -, rfl⟩ := ArchiveSettings.mem_constituents_iff.mp ht
  exact hs.isSome_table?_iff.trans (and_iff_right hinstrument)

theorem mem_tickers_constituent_iff (h : (load a settings).result = .ok s)
    (hindex : index ∈ settings.indices) (hname : index ∉ settings.tickers) {spans : List InstrumentSpan}
    (hspans : a.constituents index = .ok spans) {t : Ticker} (ht : t ∈ settings.constituents spans) :
    t ∈ s.tickers ↔ a.HasFile t.symbol settings.fields s.frequency := by
  obtain ⟨got, expansions, calendar, hs⟩ := exists_loadedFrom h
  have hinstrument := hs.mem_instruments_of_constituent hindex hname hspans ht
  obtain ⟨span, -, rfl⟩ := ArchiveSettings.mem_constituents_iff.mp ht
  exact hs.mem_tickers_iff.trans (and_iff_right hinstrument)

/-- An index stands for its listed constituents, in the order of their file and each of them once. These are
the ones among the tickers of the snapshot when all of them have files; one without files is noted in every
request for the index, and it is a column without values in the answer. An index that is called like a stock
of the settings stands for itself. -/
theorem index_stands_for_listed (h : (load a settings).result = .ok s)
    (hindex : index ∈ settings.indices) :
    (index ∈ settings.tickers → ∀ before after : List Ticker,
      s.expand (before ++ .index index :: after) = s.expand before ++ .index index :: s.expand after) ∧
    (index ∉ settings.tickers → ∃ spans, a.constituents index = .ok spans ∧
      (∀ before after : List Ticker, s.expand (before ++ .index index :: after) =
        s.expand before ++ (settings.constituents spans ++ s.expand after)) ∧
      (∀ t ∈ settings.constituents spans,
        t ∈ s.tickers ↔ a.HasFile t.symbol settings.fields s.frequency) ∧
      (settings.constituents spans = (settings.constituents spans).filter (fun t => t ∈ s.tickers) ↔
        ∀ t ∈ settings.constituents spans, a.HasFile t.symbol settings.fields s.frequency) ∧
      ∀ (σ : Type) (clock : MarketClock) (r : HistoryRequest) (state : σ),
        .index index ∈ r.tickers.toList → ∀ t ∈ settings.constituents spans,
          (∀ w, s.Serves clock r w →
            ((∃ reason, .sourceUnavailable t.symbol reason ∈ (s.history clock r state).diagnostics) ↔
              ¬ a.HasFile t.symbol settings.fields s.frequency)) ∧
          ∀ history, (s.history clock r state).result = .ok history →
            history.tickers? = some (s.expand r.tickers.toList) ∧
            (¬ a.HasFile t.symbol settings.fields s.frequency →
              ∀ k, (s.expand r.tickers.toList)[k]? = some t → ∀ d f, history.cell d k f = none)) := by
  refine ⟨fun hname => ?_, fun hname => ?_⟩
  · exact expand_index_of_none (membersOf?_index_of_named h fun hboth => hboth.2 hname)
  · obtain ⟨spans, hspans, hmembers⟩ := membersOf?_index h hindex hname
    have hfiled := fun t ht => mem_tickers_constituent_iff h hindex hname hspans (t := t) ht
    have htable : ∀ t ∈ settings.constituents spans,
        s.table? t.symbol = none ↔ ¬ a.HasFile t.symbol settings.fields s.frequency := by
      intro t ht
      rw [← isSome_table?_constituent_iff h hindex hname hspans ht, Option.not_isSome_iff_eq_none]
    refine ⟨spans, hspans, expand_index hmembers, hfiled, ?_, fun σ clock r state hr t ht => ⟨?_, ?_⟩⟩
    · rw [eq_comm, List.filter_eq_self]
      refine forall₂_congr fun t ht => ?_
      rw [decide_eq_true_iff, hfiled t ht]
    · intro w hw
      have hplace : t ∈ s.expand r.tickers.toList := by
        rw [expand, List.mem_flatMap]
        exact ⟨_, hr, by rw [hmembers]; exact ht⟩
      rw [hw.sourceUnavailable_mem_iff, htable t ht]
      exact and_iff_right ⟨t, hplace, rfl⟩
    · intro history hhistory
      have hexpands := expands_of_mem hmembers hr
      exact ⟨tickers?_of_expands hhistory hexpands, fun hfile k hk d f =>
        cell_of_no_table hhistory hexpands ((htable t ht).mpr hfile) hk d f⟩

end Indices

/-- An archive of two days, in which some stocks have closing prices. -/
def twoDaysOf (spans : List InstrumentSpan) (filed : List String) : Archive where
  calendar _ := .ok [.startOf .newYear, .startOf .afterNewYear]
  constituents _ := .ok spans
  feature symbol field _ :=
    .ok (if symbol ∈ filed ∧ field = "close" then some ⟨0, #[.ofNat 10, .ofNat 11]⟩ else none)

/-- Settings for the closing prices of an index on both days. -/
def indexSettings : ArchiveSettings where
  indices := ["I"]
  fields := ["close"]
  start := .newYear
  stop := .afterNewYear

theorem hasFile_twoDaysOf {spans : List InstrumentSpan} {filed : List String} {symbol : String}
    {f : Frequency} : (twoDaysOf spans filed).HasFile symbol ["close"] f ↔ symbol ∈ filed := by
  simp [Archive.HasFile, twoDaysOf]

theorem fits_twoDaysOf {spans : List InstrumentSpan} {filed : List String} (symbol : String)
    (fields : List String) (f : Frequency) : (twoDaysOf spans filed).Fits symbol fields f := by
  intro field _ series hseries
  have hread := Except.ok.inj hseries
  split at hread
  · cases hread
    decide
  · cases hread

theorem exists_load_instrument_twoDaysOf (spans : List InstrumentSpan) (filed : List String)
    (symbol : String) (start stop : Instant) :
    ∃ got?, (twoDaysOf spans filed).load symbol ["close"] .daily
      #[.startOf .newYear, .startOf .afterNewYear] start stop = .ok got? :=
  Archive.exists_load_of_fits _ _ _ (by decide) (by decide) (fun _ _ => ⟨_, rfl⟩) (fits_twoDaysOf _ _ _)

/-- The index can be loaded when a listed constituent has closing prices. -/
theorem exists_load_twoDaysOf {spans : List InstrumentSpan} {filed : List String} {span : InstrumentSpan}
    (hspan : span ∈ spans) (hlisted : span.overlaps .newYear .afterNewYear = true)
    (hfiled : span.symbol ∈ filed) :
    ∃ s, (load (twoDaysOf spans filed) indexSettings).result = .ok s := by
  let stocks := (spans.filter fun span => span.overlaps .newYear .afterNewYear).map fun span =>
    Ticker.stock span.symbol
  have hstocks : standsFor (twoDaysOf spans filed) .newYear .afterNewYear (.index "I") = .ok stocks := rfl
  obtain ⟨loaded, hloaded⟩ : ∃ loaded, loadAll (twoDaysOf spans filed) ["close"] .daily
      #[.startOf .newYear, .startOf .afterNewYear] (.startOf .newYear) ⟨.afterNewYear, .lastSecond⟩
        (distinctTickers stocks) = .ok loaded :=
    exists_mapM_pair fun t _ => exists_load_instrument_twoDaysOf spans filed t.symbol _ _
  have hfrequency : frequencySetting Frequency.daily.name = .ok .daily := rfl
  have hinstruments : stocks = [((.index "I" : Ticker), stocks)].flatMap Prod.snd := by simp
  have hgathers : Gathers (twoDaysOf spans filed) indexSettings (.startOf .newYear)
      ⟨.afterNewYear, .lastSecond⟩ ⟨.daily, [.index "I"], [("I", distinctTickers stocks)], loaded⟩
        [(.index "I", stocks)] [.startOf .newYear, .startOf .afterNewYear] :=
    ⟨hfrequency, rfl, rfl, rfl, hinstruments ▸ hloaded, rfl⟩
  refine exists_load hgathers.gather_eq ?_
  have hinstrument : Ticker.stock span.symbol ∈ distinctTickers stocks :=
    (@ArchiveSettings.mem_constituents_iff indexSettings spans _).mpr
      ⟨span, List.mem_filter.mpr ⟨hspan, hlisted⟩, rfl⟩
  obtain ⟨got?, hgot⟩ := exists_load_instrument_twoDaysOf spans filed span.symbol (.startOf .newYear)
    ⟨.afterNewYear, .lastSecond⟩
  obtain ⟨got, rfl⟩ := Option.isSome_iff_exists.mp
    ((Archive.isSome_load_iff hgot).mpr (hasFile_twoDaysOf.mpr hfiled))
  have hmem := (mem_mapM_pair_iff hloaded).mpr ⟨hinstrument, hgot⟩
  exact List.ne_nil_of_mem (List.mem_filterMap.mpr ⟨_, hmem, rfl⟩)

def listedBoth (symbol : String) : InstrumentSpan := ⟨symbol, .newYear, .afterNewYear⟩

/-- A request for the first day of the index. -/
def indexRequest : HistoryRequest where
  tickers := .one (.index "I")
  fields := .one (.native "close")
  start := .startOf .newYear
  stop? := some (.startOf .newYear)

section TwoDays

variable {spans : List InstrumentSpan} {filed : List String} {s : Snapshot}

theorem serves_indexRequest (h : (load (twoDaysOf spans filed) indexSettings).result = .ok s) :
    s.Serves afternoon indexRequest ⟨.startOf .newYear, ⟨.newYear, .lastSecond⟩, true⟩ where
  frequency_eq := rfl
  kinds_ok := rfl
  window_eq := by
    rw [frequency_of_load_daily h rfl]
    decide +kernel
  not_isEmpty := by decide

theorem membersOf?_twoDaysOf (h : (load (twoDaysOf spans filed) indexSettings).result = .ok s) :
    s.membersOf? (.index "I") = some (indexSettings.constituents spans) := by
  obtain ⟨spans', hspans, hmembers⟩ := membersOf?_index h (List.mem_singleton_self "I") List.not_mem_nil
  cases Except.ok.inj hspans
  exact hmembers

theorem expand_twoDaysOf (h : (load (twoDaysOf spans filed) indexSettings).result = .ok s) :
    s.expand indexRequest.tickers.toList = indexSettings.constituents spans :=
  expand_one_index (membersOf?_twoDaysOf h)

theorem mem_tickers_twoDaysOf (h : (load (twoDaysOf spans filed) indexSettings).result = .ok s)
    {t : Ticker} (ht : t ∈ indexSettings.constituents spans) : t ∈ s.tickers ↔ t.symbol ∈ filed := by
  rw [mem_tickers_constituent_iff h (List.mem_singleton_self "I") List.not_mem_nil rfl ht]
  exact hasFile_twoDaysOf

theorem isSome_table?_twoDaysOf (h : (load (twoDaysOf spans filed) indexSettings).result = .ok s)
    {t : Ticker} (ht : t ∈ indexSettings.constituents spans) :
    (s.table? t.symbol).isSome ↔ t.symbol ∈ filed := by
  rw [isSome_table?_constituent_iff h (List.mem_singleton_self "I") List.not_mem_nil rfl ht]
  exact hasFile_twoDaysOf

/-- The request is answered with the listed constituents, one of which has closing prices. -/
theorem exists_history_twoDaysOf (h : (load (twoDaysOf spans filed) indexSettings).result = .ok s)
    {t : Ticker} (ht : t ∈ indexSettings.constituents spans) (hfiled : t.symbol ∈ filed) :
    ∃ history, (s.history afternoon indexRequest ()).result = .ok history ∧
      history.tickers? = some (indexSettings.constituents spans) := by
  obtain ⟨got, expansions, calendar, hs⟩ := exists_loadedFrom h
  have hsome : ∃ t ∈ s.expand indexRequest.tickers.toList, (s.table? t.symbol).isSome := by
    rw [expand_twoDaysOf h]
    exact ⟨t, ht, (isSome_table?_twoDaysOf h ht).mpr hfiled⟩
  obtain ⟨history, hhistory⟩ := (serves_indexRequest h).exists_history hsome hs.exists_instant ()
  refine ⟨history, hhistory, ?_⟩
  rw [tickers?_of_expands hhistory (expands_of_mem (membersOf?_twoDaysOf h) (List.mem_singleton_self _)),
    expand_twoDaysOf h]

end TwoDays

/-- Of two listed constituents, only one has files. The index stands for both. -/
theorem index_stands_for_listed_twoDaysOf :
    ∃ s, (load (twoDaysOf [listedBoth "A", listedBoth "B"] ["A"]) indexSettings).result = .ok s ∧
      s.expand [.index "I"] = [.stock "A", .stock "B"] ∧ .stock "A" ∈ s.tickers ∧
      .stock "B" ∉ s.tickers := by
  obtain ⟨s, h⟩ := @exists_load_twoDaysOf [listedBoth "A", listedBoth "B"] ["A"] (listedBoth "A")
    (by decide) (by decide) (by decide)
  obtain ⟨spans, hspans, hexpand, hfiled, -⟩ :=
    (index_stands_for_listed h (List.mem_singleton_self "I")).2 List.not_mem_nil
  cases Except.ok.inj hspans
  refine ⟨s, h, hexpand [] [], ?_, fun hB => ?_⟩
  · exact (hfiled (.stock "A") (by decide)).mpr (hasFile_twoDaysOf.mpr (by decide))
  · exact absurd (hasFile_twoDaysOf.mp ((hfiled (.stock "B") (by decide)).mp hB)) (by decide)

/-- A constituent without files is in the place of the index: it is not among the tickers of the snapshot,
it is noted in the answer, and its column has no values. -/
theorem unfiled_constituent_shown :
    ∃ s, (load (twoDaysOf [listedBoth "A", listedBoth "B"] ["A"]) indexSettings).result = .ok s ∧
      .stock "B" ∈ s.expand [.index "I"] ∧ .stock "B" ∉ s.tickers ∧
      (∃ reason, .sourceUnavailable "B" reason ∈ (s.history afternoon indexRequest ()).diagnostics) ∧
      ∃ history, (s.history afternoon indexRequest ()).result = .ok history ∧
        history.tickers? = some [.stock "A", .stock "B"] ∧ ∀ d f, history.cell d 1 f = none := by
  obtain ⟨s, h⟩ := @exists_load_twoDaysOf [listedBoth "A", listedBoth "B"] ["A"] (listedBoth "A")
    (by decide) (by decide) (by decide)
  have hB : Ticker.stock "B" ∈ indexSettings.constituents [listedBoth "A", listedBoth "B"] := by decide
  have hnone : s.table? "B" = none :=
    Option.not_isSome_iff_eq_none.mp fun hsome => absurd ((isSome_table?_twoDaysOf h hB).mp hsome) (by decide)
  have hexpand := expand_twoDaysOf h
  have hexpands := expands_of_mem (membersOf?_twoDaysOf h) (List.mem_singleton_self (Ticker.index "I"))
  obtain ⟨history, hhistory, htickers⟩ := @exists_history_twoDaysOf _ _ _ h (.stock "A") (by decide)
    (by decide)
  refine ⟨s, h, ?_, fun hmem => ?_, ?_, history, hhistory, htickers, ?_⟩
  · exact hexpand ▸ hB
  · exact absurd ((mem_tickers_twoDaysOf h hB).mp hmem) (by decide)
  · exact (serves_indexRequest h).sourceUnavailable_mem_iff.mpr ⟨⟨_, hexpand ▸ hB, rfl⟩, hnone⟩
  · exact cell_of_no_table (t := .stock "B") hhistory hexpands hnone (hexpand ▸ rfl)

end Snapshot

end MarketBars
