import MarketBars.Proofs.Archive.Membership

/-!
# Constituents that are listed later

The constituents of an index are those that were listed in the range of the settings, whatever the time of a
request is. A constituent that is listed after the last observable instant is therefore in the answer to a
request that does not look ahead, when the range of the settings goes beyond that instant. Archives that
differ in such listings can be told apart by the labels of an answer, and by nothing else.
-/

namespace MarketBars

/-- The constituent was listed by the day of the last observable instant. -/
def Disclosure.isListed (clock : MarketClock) (f : Frequency) (span : InstrumentSpan) : Bool :=
  (Disclosure.lastObservable? clock f).any fun last => decide (span.listed ≤ last.date)

/-- Two archives have the same calendars and the same files of the instruments, and their indices have the
same rows for the constituents that were listed by the last observable instant. -/
structure Archive.ListSame (clock : MarketClock) (f : Frequency) (a b : Archive) : Prop where
  calendar_eq : a.calendar = b.calendar
  feature_eq : a.feature = b.feature
  constituents_eq : ∀ index, (a.constituents index).map (List.filter (Disclosure.isListed clock f)) =
    (b.constituents index).map (List.filter (Disclosure.isListed clock f))

namespace Archive

variable {a b : Archive}

theorem load_eq_of_feature (h : a.feature = b.feature) : a.load = b.load := by
  obtain ⟨calendar, constituents, feature⟩ := a
  cases h
  rfl

theorem hasFile_iff_of_feature (h : a.feature = b.feature) {symbol : String} {fields : List String}
    {f : Frequency} : a.HasFile symbol fields f ↔ b.HasFile symbol fields f := by
  rw [HasFile, HasFile, h]

end Archive

namespace InstrumentSpan

/-- Whoever was listed in a range that has been observed was listed by the last observable instant. -/
theorem filter_overlaps {clock : MarketClock} {f : Frequency} {last : Instant}
    (hlast : Disclosure.lastObservable? clock f = some last) {start stop : Date}
    (hstop : stop ≤ last.date) (spans : List InstrumentSpan) :
    spans.filter (fun span => span.overlaps start stop) =
      (spans.filter (Disclosure.isListed clock f)).filter fun span => span.overlaps start stop := by
  rw [List.filter_filter]
  refine List.filter_congr fun span _ => ?_
  cases hoverlaps : span.overlaps start stop with
  | false => rfl
  | true =>
    rw [overlaps, Bool.and_eq_true, decide_eq_true_iff] at hoverlaps
    rw [Disclosure.isListed, hlast]
    exact (decide_eq_true (Int.le_trans hoverlaps.1 hstop)).symm

end InstrumentSpan

namespace Snapshot

section Loading

variable {a b : Archive} {clock : MarketClock} {f : Frequency} {last : Instant}

theorem listed_eq_of_listSame (h : a.ListSame clock f b)
    (hlast : Disclosure.lastObservable? clock f = some last) {start stop : Date}
    (hstop : stop ≤ last.date) (index : Ticker) : listed a start stop index = listed b start stop index := by
  unfold listed
  rcases of_map_eq_map (h.constituents_eq index.symbol) with ⟨e, ha, hb⟩ | ⟨spans, spans', ha, hb, hsame⟩
  · rw [ha, hb]
  · have hoverlaps : spans.filter (fun span => span.overlaps start stop) =
        spans'.filter fun span => span.overlaps start stop := by
      rw [InstrumentSpan.filter_overlaps hlast hstop spans, hsame,
        ← InstrumentSpan.filter_overlaps hlast hstop spans']
    rw [ha, hb]
    simp only [bind, Except.bind, hoverlaps]

/-- Settings that end by the day of the last observable instant load the same. -/
theorem load_eq_of_listSame (h : a.ListSame clock f b)
    (hlast : Disclosure.lastObservable? clock f = some last) {settings : ArchiveSettings}
    (hstop : settings.stop ≤ last.date) : load a settings = load b settings := by
  have hexpansion : expansion a settings.start settings.stop =
      expansion b settings.start settings.stop := by
    funext t
    rw [expansion, expansion, listed_eq_of_listSame h hlast hstop]
  have hgather : gather a settings = gather b settings := by
    funext start stop
    have hall : loadAll a = loadAll b := by
      unfold loadAll
      rw [Archive.load_eq_of_feature h.feature_eq]
    rw [gather, gather, hexpansion, h.calendar_eq, hall]
  unfold load
  rw [hgather]

end Loading

/-- What a configured ticker stands for has been looked up among the instruments. -/
theorem LoadedFrom.mem_instruments_of_mem_expand {a : Archive} {settings : ArchiveSettings} {s : Snapshot}
    {got : Gathered} {expansions : List (Ticker × List Ticker)} {calendar : List Instant}
    (hs : LoadedFrom a settings s got expansions calendar) (h : (load a settings).result = .ok s)
    {tickers : List Ticker} {t : Ticker} (ht : t ∈ s.expand tickers)
    (hconfigured : t ∈ tickers → t ∈ settings.tickerList) :
    Ticker.stock t.symbol ∈ distinctTickers (expansions.flatMap Prod.snd) := by
  obtain ⟨u, hu, hstands⟩ := List.mem_flatMap.mp ht
  cases hmembers : s.membersOf? u with
  | some members =>
    obtain ⟨hkind, hindex, hname⟩ := (isSome_membersOf?_iff h).mp (Option.isSome_of_eq_some hmembers)
    obtain ⟨symbol, kind⟩ := u
    cases hkind
    obtain ⟨spans, hspans, hlisted⟩ := hs.membersOf?_index hindex hname
    have hmem : t ∈ settings.constituents spans := by
      rw [show s.membersOf? ⟨symbol, .index⟩ = _ from hlisted] at hstands
      exact hstands
    have hinstrument := hs.mem_instruments_of_constituent hindex hname hspans hmem
    obtain ⟨span, -, rfl⟩ := ArchiveSettings.mem_constituents_iff.mp hmem
    exact hinstrument
  | none =>
    rw [hmembers] at hstands
    cases List.mem_singleton.mp hstands
    rcases ArchiveSettings.mem_tickerList.mp (hconfigured hu) with ⟨-, hstock⟩ | ⟨hkind, hindex⟩
    · exact hs.mem_instruments_of_stock hstock
    · -- An index that stands for itself is called like a stock.
      by_cases hname : t.symbol ∈ settings.tickers
      · exact hs.mem_instruments_of_stock hname
      · have hsome := (isSome_membersOf?_iff h).mpr ⟨hkind, hindex, hname⟩
        rw [hmembers] at hsome
        cases hsome

section Answers

variable {a b : Archive} {settings : ArchiveSettings} {s₁ s₂ : Snapshot}

theorem expands_eq_of_loads (h₁ : (load a settings).result = .ok s₁)
    (h₂ : (load b settings).result = .ok s₂) (tickers : List Ticker) :
    s₁.expands tickers = s₂.expands tickers := by
  refine congrArg (List.any tickers) (funext fun t => ?_)
  rw [Bool.eq_iff_iff, isSome_membersOf?_iff h₁, isSome_membersOf?_iff h₂]

/-- An instrument that has a table in both snapshots has the same in both. -/
theorem table?_eq_of_loads (hcalendar : a.calendar = b.calendar) (hfeature : a.feature = b.feature)
    (h₁ : (load a settings).result = .ok s₁) (h₂ : (load b settings).result = .ok s₂) {symbol : String}
    {u₁ u₂ : Table} (hu₁ : s₁.table? symbol = some u₁) (hu₂ : s₂.table? symbol = some u₂) : u₁ = u₂ := by
  obtain ⟨got₁, expansions₁, calendar₁, hs₁⟩ := exists_loadedFrom h₁
  obtain ⟨got₂, expansions₂, calendar₂, hs₂⟩ := exists_loadedFrom h₂
  have hfrequency : got₁.frequency = got₂.frequency :=
    Except.ok.inj (hs₁.frequency_eq.symm.trans hs₂.frequency_eq)
  have hdates : calendar₁ = calendar₂ := by
    have hread := hs₁.calendar_eq
    rw [hcalendar, hfrequency, hs₂.calendar_eq] at hread
    exact (Except.ok.inj hread).symm
  obtain ⟨-, table₁, missing₁, hload₁, hprices₁⟩ := hs₁.mem_tables_iff.mp (hs₁.table?_eq_some_iff.mp hu₁)
  obtain ⟨-, table₂, missing₂, hload₂, hprices₂⟩ := hs₂.mem_tables_iff.mp (hs₂.table?_eq_some_iff.mp hu₂)
  rw [Archive.load_eq_of_feature hfeature, frequency_eq_of_loads rfl h₁ h₂, hdates, hload₂] at hload₁
  cases hload₁
  exact Except.ok.inj (hprices₁.symm.trans hprices₂)

/-- Whether a ticker that the settings name, or a constituent of theirs, has a table depends on its files
only. -/
theorem isSome_table?_eq_of_mem_expand (hfeature : a.feature = b.feature)
    (h₁ : (load a settings).result = .ok s₁) (h₂ : (load b settings).result = .ok s₂)
    {tickers : List Ticker} {t : Ticker} (ht₁ : t ∈ s₁.expand tickers) (ht₂ : t ∈ s₂.expand tickers)
    (hconfigured : t ∈ tickers → t ∈ settings.tickerList) :
    (s₁.table? t.symbol).isSome = (s₂.table? t.symbol).isSome := by
  obtain ⟨got₁, expansions₁, calendar₁, hs₁⟩ := exists_loadedFrom h₁
  obtain ⟨got₂, expansions₂, calendar₂, hs₂⟩ := exists_loadedFrom h₂
  have hinstrument₁ := hs₁.mem_instruments_of_mem_expand h₁ ht₁ hconfigured
  have hinstrument₂ := hs₂.mem_instruments_of_mem_expand h₂ ht₂ hconfigured
  rw [Bool.eq_iff_iff, hs₁.isSome_table?_iff, hs₂.isSome_table?_iff, and_iff_right hinstrument₁,
    and_iff_right hinstrument₂, frequency_eq_of_loads rfl h₁ h₂]
  exact Archive.hasFile_iff_of_feature hfeature

/-- A request whose tickers stand for the same in both snapshots is answered alike, as long as the tickers
that the settings do not name have tables in both or in neither. -/
theorem history_eq_of_expand_eq (hcalendar : a.calendar = b.calendar) (hfeature : a.feature = b.feature)
    (h₁ : (load a settings).result = .ok s₁) (h₂ : (load b settings).result = .ok s₂) {σ : Type}
    {clock : MarketClock} {r : HistoryRequest}
    (hothers : ∀ t ∈ r.tickers.toList, t ∉ settings.tickerList →
      (s₁.table? t.symbol).isSome = (s₂.table? t.symbol).isSome)
    (hexpand : s₁.expand r.tickers.toList = s₂.expand r.tickers.toList) (state : σ) :
    s₁.history clock r state = s₂.history clock r state := by
  refine history_congr (frequency_eq_of_loads rfl h₁ h₂) hexpand (expands_eq_of_loads h₁ h₂ _) ?_ state
  intro window _ _ t ht
  have hsome : (s₁.table? t.symbol).isSome = (s₂.table? t.symbol).isSome := by
    by_cases hother : t ∈ r.tickers.toList ∧ t ∉ settings.tickerList
    · exact hothers t hother.1 hother.2
    · have ht₂ := ht
      rw [hexpand] at ht₂
      exact isSome_table?_eq_of_mem_expand hfeature h₁ h₂ ht ht₂ fun hmem =>
        Decidable.not_not.mp fun hnot => hother ⟨hmem, hnot⟩
  have htable : s₁.table? t.symbol = s₂.table? t.symbol := by
    cases hu₁ : s₁.table? t.symbol with
    | none =>
      rw [hu₁] at hsome
      exact (Option.isNone_iff_eq_none.mp (Option.isSome_eq_false_iff.mp hsome.symm)).symm
    | some u₁ =>
      rw [hu₁] at hsome
      obtain ⟨u₂, hu₂⟩ := Option.isSome_iff_exists.mp hsome.symm
      rw [hu₂, table?_eq_of_loads hcalendar hfeature h₁ h₂ hu₁ hu₂]
  rw [htable]

/-- The labels of an answer tell what the tickers of a request stand for. -/
theorem expand_eq_of_answers_eq (h₁ : (load a settings).result = .ok s₁)
    (h₂ : (load b settings).result = .ok s₂) {σ : Type} {clock : MarketClock} {r : HistoryRequest}
    {history : History} {state state' : σ} (hhistory₁ : (s₁.history clock r state).result = .ok history)
    (hhistory₂ : (s₂.history clock r state').result = .ok history) :
    s₁.expand r.tickers.toList = s₂.expand r.tickers.toList := by
  have hexpands := expands_eq_of_loads h₁ h₂ r.tickers.toList
  cases hone : s₁.expands r.tickers.toList with
  | true =>
    have htickers₁ := tickers?_of_expands hhistory₁ hone
    have htickers₂ := tickers?_of_expands hhistory₂ (hexpands ▸ hone)
    exact Option.some.inj (htickers₁.symm.trans htickers₂)
  | false =>
    -- No ticker is replaced in either snapshot.
    have hself : ∀ {s : Snapshot}, s.expands r.tickers.toList = false →
        s.expand r.tickers.toList = r.tickers.toList := by
      intro s hs
      rw [expands, List.any_eq_false] at hs
      have hnone : ∀ t ∈ r.tickers.toList, (s.membersOf? t).getD [t] = [t] := by
        intro t ht
        rw [Option.not_isSome_iff_eq_none.mp (hs t ht)]
        rfl
      rw [expand, List.flatMap_def, List.map_congr_left hnone, ← List.flatMap_def,
        List.flatMap_singleton']
    rw [hself hone, hself (hexpands ▸ hone)]

/-- Archives that differ in the listings after the last observable instant only: settings that end by the
day of that instant load the same. Other settings load snapshots that agree in the tables that both of them
have. Two answers for tickers of the settings are the same exactly when the tickers stand for the same, and
an index stands for its constituents that were listed in the range of the settings. -/
theorem answers_same_iff_expand_same {clock : MarketClock} {f : Frequency} (h : a.ListSame clock f b) :
    (∀ last, Disclosure.lastObservable? clock f = some last → settings.stop ≤ last.date →
      load a settings = load b settings) ∧
    ∀ s₁ s₂, (load a settings).result = .ok s₁ → (load b settings).result = .ok s₂ →
      (∀ symbol u₁ u₂, s₁.table? symbol = some u₁ → s₂.table? symbol = some u₂ → u₁ = u₂) ∧
      (∀ index ∈ settings.indices, index ∉ settings.tickers → ∃ spans₁ spans₂,
        a.constituents index = .ok spans₁ ∧ b.constituents index = .ok spans₂ ∧
        s₁.expand [.index index] = settings.constituents spans₁ ∧
        s₂.expand [.index index] = settings.constituents spans₂) ∧
      ∀ (σ : Type) (r : HistoryRequest) (state : σ),
        ((∀ t ∈ r.tickers.toList, t ∉ settings.tickerList →
            (s₁.table? t.symbol).isSome = (s₂.table? t.symbol).isSome) →
          s₁.expand r.tickers.toList = s₂.expand r.tickers.toList →
            s₁.history clock r state = s₂.history clock r state) ∧
        ((∀ t ∈ r.tickers.toList, t ∈ settings.tickerList) → ∀ history₁ history₂,
          (s₁.history clock r state).result = .ok history₁ →
          (s₂.history clock r state).result = .ok history₂ →
            (history₁ = history₂ ↔ s₁.expand r.tickers.toList = s₂.expand r.tickers.toList)) := by
  refine ⟨fun last hlast hstop => load_eq_of_listSame h hlast hstop, fun s₁ s₂ h₁ h₂ =>
    ⟨?_, ?_, fun σ r state => ⟨?_, ?_⟩⟩⟩
  · intro symbol u₁ u₂
    exact table?_eq_of_loads h.calendar_eq h.feature_eq h₁ h₂
  · intro index hindex hname
    obtain ⟨spans₁, hspans₁, hmembers₁⟩ := membersOf?_index h₁ hindex hname
    obtain ⟨spans₂, hspans₂, hmembers₂⟩ := membersOf?_index h₂ hindex hname
    exact ⟨spans₁, spans₂, hspans₁, hspans₂, expand_one_index hmembers₁, expand_one_index hmembers₂⟩
  · intro hothers hexpand
    exact history_eq_of_expand_eq h.calendar_eq h.feature_eq h₁ h₂ hothers hexpand state
  · intro hconfigured history₁ history₂ hhistory₁ hhistory₂
    constructor
    · rintro rfl
      exact expand_eq_of_answers_eq h₁ h₂ hhistory₁ hhistory₂
    · intro hexpand
      have hsame : s₁.history clock r state = s₂.history clock r state :=
        history_eq_of_expand_eq h.calendar_eq h.feature_eq h₁ h₂
          (fun t ht hnot => absurd (hconfigured t ht) hnot) hexpand state
      exact Except.ok.inj (hhistory₁.symm.trans ((congrArg Run.result hsame).trans hhistory₂))

end Answers

def listedOn (symbol : String) (day : Date) : InstrumentSpan := ⟨symbol, day, day⟩

theorem listSame_twoDaysOf {clock : MarketClock} {f : Frequency} {spans spans' : List InstrumentSpan}
    (h : spans.filter (Disclosure.isListed clock f) = spans'.filter (Disclosure.isListed clock f))
    (filed : List String) : (twoDaysOf spans filed).ListSame clock f (twoDaysOf spans' filed) where
  calendar_eq := rfl
  feature_eq := rfl
  constituents_eq := fun _ => congrArg Except.ok h

/-- A stock is listed after the range of the settings. The archives with and without it give the same
answer. -/
theorem answers_same_iff_expand_same_thirdDay :
    ∃ s₁ s₂, (load (twoDaysOf [listedBoth "A"] ["A", "B"]) indexSettings).result = .ok s₁ ∧
      (load (twoDaysOf [listedBoth "A", listedOn "B" ⟨20091, by decide, by decide⟩] ["A", "B"])
        indexSettings).result = .ok s₂ ∧
      s₁.history afternoon indexRequest () = s₂.history afternoon indexRequest () := by
  obtain ⟨s₁, h₁⟩ := @exists_load_twoDaysOf [listedBoth "A"] ["A", "B"] (listedBoth "A")
    (by decide) (by decide) (by decide)
  obtain ⟨s₂, h₂⟩ := @exists_load_twoDaysOf
    [listedBoth "A", listedOn "B" ⟨20091, by decide, by decide⟩] ["A", "B"] (listedBoth "A")
    (by decide) (by decide) (by decide)
  have hsame : (twoDaysOf [listedBoth "A"] ["A", "B"]).ListSame afternoon .daily
      (twoDaysOf [listedBoth "A", listedOn "B" ⟨20091, by decide, by decide⟩] ["A", "B"]) :=
    listSame_twoDaysOf (by decide +kernel) _
  refine ⟨s₁, s₂, h₁, h₂, ?_⟩
  have hanswers := ((answers_same_iff_expand_same hsame).2 s₁ s₂ h₁ h₂).2.2 Unit indexRequest ()
  refine hanswers.1 (fun t ht hnot => absurd ?_ hnot) ?_
  · rw [List.mem_singleton.mp ht]
    decide
  · rw [expand_twoDaysOf h₁, expand_twoDaysOf h₂]
    rfl

/-- A stock is listed on the second day, which is not over yet and is in the range of the settings. A
request for the first day that does not look ahead is answered with a column for it. -/
theorem later_listing_shown :
    (Disclosure.lastObservable? afternoon .daily).map Instant.date = some .newYear ∧
    ∃ s₁ s₂ history₁ history₂,
      (twoDaysOf [listedBoth "A"] ["A", "B"]).ListSame afternoon .daily
        (twoDaysOf [listedBoth "A", listedOn "B" .afterNewYear] ["A", "B"]) ∧
      (load (twoDaysOf [listedBoth "A"] ["A", "B"]) indexSettings).result = .ok s₁ ∧
      (load (twoDaysOf [listedBoth "A", listedOn "B" .afterNewYear] ["A", "B"])
        indexSettings).result = .ok s₂ ∧
      indexRequest.lookAhead = false ∧
      (s₁.history afternoon indexRequest ()).result = .ok history₁ ∧
      (s₂.history afternoon indexRequest ()).result = .ok history₂ ∧
      history₁.tickers? = some [.stock "A"] ∧
      history₂.tickers? = some [.stock "A", .stock "B"] ∧ history₁ ≠ history₂ := by
  obtain ⟨s₁, h₁⟩ := @exists_load_twoDaysOf [listedBoth "A"] ["A", "B"] (listedBoth "A")
    (by decide) (by decide) (by decide)
  obtain ⟨s₂, h₂⟩ := @exists_load_twoDaysOf [listedBoth "A", listedOn "B" .afterNewYear] ["A", "B"]
    (listedBoth "A") (by decide) (by decide) (by decide)
  obtain ⟨history₁, hhistory₁, htickers₁⟩ := @exists_history_twoDaysOf _ _ _ h₁ (.stock "A")
    (by decide) (by decide)
  obtain ⟨history₂, hhistory₂, htickers₂⟩ := @exists_history_twoDaysOf _ _ _ h₂ (.stock "A")
    (by decide) (by decide)
  refine ⟨by decide +kernel, s₁, s₂, history₁, history₂, listSame_twoDaysOf (by decide +kernel) _, h₁,
    h₂, rfl, hhistory₁, hhistory₂, htickers₁, htickers₂, ?_⟩
  rintro rfl
  rw [htickers₁] at htickers₂
  revert htickers₂
  decide

end Snapshot

end MarketBars
