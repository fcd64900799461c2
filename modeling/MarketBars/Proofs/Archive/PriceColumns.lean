import MarketBars.Proofs.Archive.Loading
import MarketBars.Proofs.Pipeline.Pricing

/-!
# Price fields and their columns

A request for price fields is meant to show the columns that the settings map to the fields. It does,
for every archive, as long as nothing gets in the way: a field that is called like another column of the
archive shows that column where the mapped one has no file, a mapped column that was replaced before it
is copied shows what replaced it, and the timestamps are no column to copy.
-/

namespace MarketBars

namespace ArchiveSettings

/-- The mappings are from distinct columns to distinct price fields, and the columns are loaded. -/
structure MapsColumns (settings : ArchiveSettings) : Prop where
  columns_nodup : (settings.fieldMap.map Prod.fst).Nodup
  fields_nodup : (settings.fieldMap.map Prod.snd).Nodup
  listed : ∀ m ∈ settings.fieldMap, m.1 ∈ settings.fields

/-- Nothing gets in the way of a mapping: its column is a column and not the timestamps, the name of its
field is not that of another loaded column, and no mapping before it copies a column under the name of
its own. -/
structure KeepsColumn (settings : ArchiveSettings) (m : String × PriceField) : Prop where
  ne_stampName : m.1 ≠ Table.stampName
  own_name : m.2.name ∈ settings.fields → m.2.name = m.1
  not_replaced : ∀ before after, settings.fieldMap = before ++ m :: after →
    ∀ m' ∈ before, m'.2.name = m.1 → m'.1 = Table.stampName

def columnMap (settings : ArchiveSettings) : PriceMap :=
  settings.fieldMap.map fun m => (m.2, m.1)

variable {settings : ArchiveSettings}

theorem MapsColumns.column_columnMap (h : settings.MapsColumns) {m : String × PriceField}
    (hm : m ∈ settings.fieldMap) : settings.columnMap.column m.2 = m.1 := by
  have hlookup : settings.columnMap.lookup m.2 = some m.1 := by
    have hfields := h.fields_nodup
    unfold columnMap
    generalize settings.fieldMap = map at hm hfields
    induction map with
    | nil => cases hm
    | cons m' rest ih =>
      rw [List.map_cons, List.nodup_cons] at hfields
      rw [List.map_cons, List.lookup_cons]
      rcases List.mem_cons.mp hm with rfl | hrest
      · rw [beq_self_eq_true]
      · have hne : m.2 ≠ m'.2 := fun heq => hfields.1 (heq ▸ List.mem_map_of_mem hrest)
        rw [beq_eq_false_iff_ne.mpr hne]
        exact ih hrest hfields.2
  rw [PriceMap.column, hlookup]
  rfl

/-- After all mappings, the field of an undisturbed one is a copy of its column, and there is no column
of its name if there is none of that of its column. -/
theorem MapsColumns.prices_self (h : settings.MapsColumns) {m : String × PriceField}
    (hm : m ∈ settings.fieldMap) (hkeeps : settings.KeepsColumn m) {names : List String}
    (hnames : ∀ name ∈ names, name ∈ settings.fields) (hstamp : Table.stampName ∉ names) :
    (Table.Origin.self names).prices settings.fieldMap m.2.name = Table.Origin.self names m.1 := by
  obtain ⟨before, after, hmap⟩ := List.append_of_mem hm
  have hfields := h.fields_nodup
  rw [hmap, List.map_append, List.map_cons, List.nodup_append] at hfields
  obtain ⟨-, hafter, hbefore⟩ := hfields
  have hother : ∀ m' ∈ after, m'.2.name ≠ m.2.name := by
    intro m' hm' heq
    exact (List.nodup_cons.mp hafter).1 (PriceField.eq_of_name_eq heq ▸ List.mem_map_of_mem hm')
  have hother' : ∀ m' ∈ before, m'.2.name ≠ m.2.name := by
    intro m' hm' heq
    exact hbefore _ (List.mem_map_of_mem hm') _ List.mem_cons_self (PriceField.eq_of_name_eq heq)
  have hsplit : (Table.Origin.self names).prices settings.fieldMap =
      (((Table.Origin.self names).prices before).copy m.1 m.2.name).prices after := by
    rw [hmap, Table.Origin.prices, List.foldl_append, List.foldl_cons]
    rfl
  have hnone : Table.Origin.self names Table.stampName = none := if_neg hstamp
  have hcolumn : (Table.Origin.self names).prices before m.1 = Table.Origin.self names m.1 :=
    Table.Origin.prices_of_not_copied hnone fun m' hm' heq =>
      hkeeps.not_replaced before after hmap m' hm' heq
  rw [hsplit, Table.Origin.prices_of_ne hother, Table.Origin.copy_target, hcolumn,
    Table.Origin.prices_of_ne hother']
  unfold Table.Origin.self
  by_cases hmem : m.1 ∈ names
  · rw [if_pos hmem]
    rfl
  · rw [if_neg hmem, Option.none_or]
    -- A column of the field's name would be the mapped one.
    refine if_neg fun hfield => hmem ?_
    rw [← hkeeps.own_name (hnames _ hfield)]
    exact hfield

end ArchiveSettings

namespace Snapshot

variable {κ σ : Type} [DecidableEq κ]

/-- What the tables of a snapshot show of some labels that stand for columns, inside a window. -/
def views (s : Snapshot) (tickers : List Ticker) (window : Window) (column : κ → String)
    (labels : List κ) : Except DataError (List (Ticker × Table.View κ)) :=
  if window.isEmpty then
    .ok ((distinctTickers tickers).map fun ticker => (ticker, ⟨.ok [], fun _ _ => none⟩))
  else
    Plan.settled ((distinctTickers tickers).map fun ticker =>
      (ticker, match s.table? ticker.symbol with
        | none => .error (.sourceUnavailable ticker.symbol "not in the loaded snapshot")
        | some t => .ok ((t.within window.start window.stop).view column labels)))

/-- The answer to a request for price fields that stand for columns. -/
def priceAnswer (s : Snapshot) (clock : MarketClock) (r : PriceRequest)
    (column : PriceField → String) : Except Failure History :=
  let frequency := r.frequency?.getD s.frequency
  let requested := r.tickers.toList
  if frequency ≠ s.frequency then .error (.error (.unsupportedFrequency name frequency))
  else
    match checkKinds name kinds requested with
    | .error e => .error (.error e)
    | .ok () =>
      match Window.ofRequest? clock r.start r.stop? frequency r.lookAhead with
      | none => .error (.fault .calendarRange)
      | some window =>
        liftError ((s.views (s.expand requested) window column r.fields.toList).bind
          (Plan.answerTo (s.expand requested)
            ⟨window.singleDate, r.tickers.isSingle && !s.expands requested, r.fields.isSingle⟩
            r.fields.toList r.names))

/-- A request with a window, for tickers that are served, is answered from what the tables show. -/
theorem priceAnswer_of_window {s : Snapshot} {clock : MarketClock} {r : PriceRequest} {window : Window}
    (hfrequency : r.frequency? = none) (hkinds : checkKinds name kinds r.tickers.toList = .ok ())
    (hwindow : Window.ofRequest? clock r.start r.stop? s.frequency r.lookAhead = some window)
    (column : PriceField → String) :
    s.priceAnswer clock r column =
      liftError ((s.views (s.expand r.tickers.toList) window column r.fields.toList).bind
        (Plan.answerTo (s.expand r.tickers.toList)
          ⟨window.singleDate, r.tickers.isSingle && !s.expands r.tickers.toList, r.fields.isSingle⟩
          r.fields.toList r.names)) := by
  have hserved : ¬ s.frequency ≠ s.frequency := fun h => h rfl
  unfold priceAnswer
  dsimp only
  rw [hfrequency, Option.getD_none, if_neg hserved, hkinds, hwindow]

/-- The replies of a snapshot do not depend on those before. -/
theorem mapReplies_fetcher (s : Snapshot) (plan : Plan) (column : κ → String) (labels : List κ)
    (tickers : List Ticker) (state : σ) :
    Plan.mapReplies (Table.view column labels) (plan.replies s.fetcher tickers state) =
      tickers.map fun ticker => (ticker, match s.table? ticker.symbol with
        | none => .error (.sourceUnavailable ticker.symbol "not in the loaded snapshot")
        | some t => .ok ((t.within plan.window.start plan.window.stop).view column labels)) := by
  induction tickers generalizing state with
  | nil => rfl
  | cons ticker rest ih =>
    rw [Plan.replies, List.map_cons, ← ih (s.fetcher (plan.call ticker) state).state]
    rw [Plan.mapReplies, List.map_cons, Plan.mapReplies, fetcher]
    cases hticker : s.table? ticker.symbol with
    | none => simp only [Plan.call, hticker, Except.map]
    | some t => simp only [Plan.call, hticker, Except.map]

theorem run_eq_views (s : Snapshot) (plan : Plan) {column : κ → String} {labels : List κ}
    (hfields : plan.fields = labels.map column) (state : σ) :
    (plan.run (if plan.window.isEmpty then Fetcher.nothing else s.fetcher) state).result =
      (s.views plan.tickers plan.window column labels).bind
        (Plan.answerTo plan.tickers plan.flags labels plan.fields) := by
  unfold views
  cases hwindow : plan.window.isEmpty with
  | true =>
    rw [if_pos rfl, if_pos rfl]
    exact Plan.run_nothing_eq_answerTo hwindow hfields state
  | false =>
    rw [if_neg Bool.false_ne_true, if_neg Bool.false_ne_true,
      Plan.run_eq_answerTo hwindow hfields, mapReplies_fetcher]

theorem labelled_history_eq (s : Snapshot) (clock : MarketClock) (r : PriceRequest) (map : PriceMap)
    (state : σ) :
    r.labelled (s.history clock (r.toHistory map) state).result =
      s.priceAnswer clock r map.column := by
  have hrun : ∀ window : Window, ∀ frequency,
      (((r.toHistory map).plan (s.expand r.tickers.toList)
        (r.tickers.isSingle && !s.expands r.tickers.toList) window frequency).run
          (if window.isEmpty then Fetcher.nothing else s.fetcher) state).result =
        (s.views (s.expand r.tickers.toList) window map.column r.fields.toList).bind
          (Plan.answerTo (s.expand r.tickers.toList)
            ⟨window.singleDate, r.tickers.isSingle && !s.expands r.tickers.toList,
              (r.toHistory map).fields.isSingle⟩ r.fields.toList (r.toHistory map).columns) := by
    intro window frequency
    exact s.run_eq_views ((r.toHistory map).plan (s.expand r.tickers.toList)
      (r.tickers.isSingle && !s.expands r.tickers.toList) window frequency)
      (r.columns_toHistory map) state
  -- But for its fields, the request for columns is the one for price fields.
  have hsame : (r.toHistory map).frequency? = r.frequency? ∧ (r.toHistory map).tickers = r.tickers ∧
      (r.toHistory map).start = r.start ∧ (r.toHistory map).stop? = r.stop? ∧
        (r.toHistory map).lookAhead = r.lookAhead := ⟨rfl, rfl, rfl, rfl, rfl⟩
  obtain ⟨hfrequency, htickers, hstart, hstop, hlook⟩ := hsame
  unfold history priceAnswer
  dsimp only
  rw [hfrequency, htickers, hstart, hstop, hlook]
  by_cases hserved : r.frequency?.getD s.frequency ≠ s.frequency
  · rw [if_pos hserved, if_pos hserved]
    rfl
  · rw [if_neg hserved, if_neg hserved]
    cases checkKinds name kinds r.tickers.toList with
    | error e => rfl
    | ok _ =>
      cases Window.ofRequest? clock r.start r.stop? (r.frequency?.getD s.frequency) r.lookAhead with
      | none => rfl
      | some window =>
        have hsingle : (r.toHistory map).fields.isSingle = r.fields.isSingle :=
          OneOrMany.isSingle_map _ r.fields
        simp only [Run.lift, hrun, r.labelled_bind_answerTo, hsingle]

/-- Snapshots whose tables show the same of the columns answer the same. -/
theorem priceAnswer_congr {s₁ s₂ : Snapshot} {r : PriceRequest} {column₁ column₂ : PriceField → String}
    (hfrequency : s₁.frequency = s₂.frequency) (hmembers : s₁.members = s₂.members)
    (hviews : ∀ symbol start stop,
      (s₁.table? symbol).map (fun t => (t.within start stop).view column₁ r.fields.toList) =
        (s₂.table? symbol).map fun t => (t.within start stop).view column₂ r.fields.toList)
    (clock : MarketClock) : s₁.priceAnswer clock r column₁ = s₂.priceAnswer clock r column₂ := by
  have hmembersOf : s₁.membersOf? = s₂.membersOf? := by
    funext ticker
    rw [membersOf?, membersOf?, hmembers]
  have hexpand : s₁.expand = s₂.expand := by
    funext tickers
    rw [expand, expand, hmembersOf]
  have hexpands : s₁.expands = s₂.expands := by
    funext tickers
    rw [expands, expands, hmembersOf]
  have hshown : ∀ tickers window, s₁.views tickers window column₁ r.fields.toList =
      s₂.views tickers window column₂ r.fields.toList := by
    intro tickers window
    unfold views
    split
    · rfl
    · refine congrArg Plan.settled (List.map_congr_left fun ticker _ => Prod.ext rfl ?_)
      have h := hviews ticker.symbol window.start window.stop
      cases h₁ : s₁.table? ticker.symbol with
      | none =>
        cases h₂ : s₂.table? ticker.symbol with
        | none => rfl
        | some t₂ =>
          rw [h₁, h₂] at h
          cases h
      | some t₁ =>
        cases h₂ : s₂.table? ticker.symbol with
        | none =>
          rw [h₁, h₂] at h
          cases h
        | some t₂ =>
          rw [h₁, h₂] at h
          exact congrArg Except.ok (Option.some.inj h)
  unfold priceAnswer
  rw [hfrequency, hexpand, hexpands]
  simp only [hshown]

/-- For every archive that can be loaded without mappings, a request for some of the price fields is
answered as a request for the columns that are mapped to them, made of the snapshot without mappings. -/
def ReadsColumns (settings : ArchiveSettings) (fields : List PriceField) : Prop :=
  ∀ (a : Archive) (raw : Snapshot), (load a settings.unmapped).result = .ok raw →
    ∃ mapped, (load a settings).result = .ok mapped ∧
      ∀ (σ : Type) (clock : MarketClock) (r : PriceRequest) (s : σ), r.fields.toList ≠ [] →
        (∀ f ∈ r.fields.toList, f ∈ fields) →
          ((mapped.provider clock).price r s).result =
            r.labelled ((raw.provider clock).history (r.toHistory settings.columnMap) s).result

/-- A table with copies shows of the price fields what the table without shows of their columns. -/
theorem view_within_eq {settings : ArchiveSettings} (h : settings.MapsColumns) {t u : Table}
    (hcopies : t.Copies ((Table.Origin.self t.names).prices settings.fieldMap) u)
    (hnames : ∀ name ∈ t.names, name ∈ settings.fields) {fields : List PriceField}
    (hmapped : ∀ f ∈ fields, ∃ m ∈ settings.fieldMap, m.2 = f ∧ settings.KeepsColumn m)
    (start stop : Instant) :
    (u.within start stop).view PriceField.name fields =
      (t.within start stop).view settings.columnMap.column fields := by
  have hwithin := hcopies.within start stop
  rw [Table.view, Table.view, hwithin.stamps_eq]
  congr 1
  funext date f
  by_cases hf : f ∈ fields
  · obtain ⟨m, hm, rfl, hkeeps⟩ := hmapped f hf
    rw [if_pos hf, if_pos hf, hwithin.valueAt_eq m.2.name_ne_stampName,
      h.prices_self hm hkeeps hnames t.stampName_not_mem, h.column_columnMap hm]
    unfold Table.Origin.self
    by_cases hcolumn : m.1 ∈ t.names
    · rw [if_pos hcolumn]
      rfl
    · have hmem : m.1 ∉ (t.within start stop).names := hcolumn
      rw [if_neg hcolumn]
      exact (Table.valueAt_of_not_mem hmem hkeeps.ne_stampName date).symm
  · rw [if_neg hf, if_neg hf]

/-- A loaded snapshot with mappings answers requests for price fields from the columns of their names. -/
theorem price_eq_priceAnswer {a : Archive} {settings : ArchiveSettings} {s : Snapshot}
    (h : (load a settings).result = .ok s) (hne : settings.fieldMap ≠ []) (clock : MarketClock)
    (r : PriceRequest) (state : σ) :
    ((s.provider clock).price r state).result = s.priceAnswer clock r PriceField.name := by
  obtain ⟨got, -, -, -, -, hprice, -⟩ := of_load h
  have hmap : (s.provider clock : Provider σ).priceMap? =
      some (PriceMap.identity (settings.fieldMap.map Prod.snd)) := by
    refine hprice.trans (if_neg ?_)
    rw [List.isEmpty_iff]
    exact hne
  have hcolumn : (PriceMap.identity (settings.fieldMap.map Prod.snd)).column = PriceField.name :=
    funext fun f => PriceMap.column_identity _ f
  rw [Provider.price_eq_labelled hmap, ← hcolumn]
  exact labelled_history_eq s clock r _ state

/-- What requests for price fields show is told by the answers, whatever the state of a source is. -/
theorem readsColumns_iff_priceAnswer {settings : ArchiveSettings} {fields : List PriceField}
    (hmapped : ∀ f ∈ fields, ∃ m ∈ settings.fieldMap, m.2 = f) :
    ReadsColumns settings fields ↔ ∀ (a : Archive) (raw mapped : Snapshot),
      (load a settings.unmapped).result = .ok raw → (load a settings).result = .ok mapped →
        ∀ (clock : MarketClock) (r : PriceRequest), r.fields.toList ≠ [] →
          (∀ f ∈ r.fields.toList, f ∈ fields) →
            mapped.priceAnswer clock r PriceField.name =
              raw.priceAnswer clock r settings.columnMap.column := by
  have hne : ∀ r : PriceRequest, r.fields.toList ≠ [] → (∀ f ∈ r.fields.toList, f ∈ fields) →
      settings.fieldMap ≠ [] := by
    intro r hr hfields
    obtain ⟨f, hf⟩ := List.exists_mem_of_ne_nil _ hr
    obtain ⟨m, hm, -⟩ := hmapped f (hfields f hf)
    exact List.ne_nil_of_mem hm
  constructor
  · intro h a raw mapped hraw hload clock r hr hfields
    obtain ⟨mapped', hmapped', hreads⟩ := h a raw hraw
    cases hload.symm.trans hmapped'
    have hreads := hreads Unit clock r () hr hfields
    rw [price_eq_priceAnswer hload (hne r hr hfields)] at hreads
    exact hreads.trans (labelled_history_eq raw clock r _ ())
  · intro h a raw hraw
    obtain ⟨mapped, hload⟩ := exists_load_of_unmapped hraw
    refine ⟨mapped, hload, ?_⟩
    intro σ clock r s hr hfields
    rw [price_eq_priceAnswer hload (hne r hr hfields), h a raw mapped hraw hload clock r hr hfields]
    exact (labelled_history_eq raw clock r _ s).symm

/-- Where nothing gets in the way, price fields show the columns that are mapped to them. -/
theorem readsColumns_of_keepsColumn {settings : ArchiveSettings} (h : settings.MapsColumns)
    {fields : List PriceField} (hmapped : ∀ f ∈ fields, ∃ m ∈ settings.fieldMap, m.2 = f)
    (hkeeps : ∀ m ∈ settings.fieldMap, m.2 ∈ fields → settings.KeepsColumn m) :
    ReadsColumns settings fields := by
  rw [readsColumns_iff_priceAnswer hmapped]
  intro a raw mapped hraw hload clock r hr hfields
  obtain ⟨got, hgot, -, hmembers, hfrequency, -⟩ := of_load hload
  obtain ⟨got', hgot', -, hmembers', hfrequency', -⟩ := of_load hraw
  -- Both snapshots are made of what the same reading gathers.
  have hsame : gather a settings (.startOf settings.start) ⟨settings.stop, .lastSecond⟩ = .ok got' :=
    hgot'
  cases hsame.symm.trans hgot
  have hmapped' : ∀ f ∈ r.fields.toList, ∃ m ∈ settings.fieldMap, m.2 = f ∧ settings.KeepsColumn m := by
    intro f hf
    obtain ⟨m, hm, rfl⟩ := hmapped f (hfields f hf)
    exact ⟨m, hm, rfl, hkeeps m hm (hfields m.2 hf)⟩
  apply priceAnswer_congr
  · exact hfrequency.trans hfrequency'.symm
  · exact hmembers.trans hmembers'.symm
  · intro symbol start stop
    rcases table?_unmapped hraw hload symbol with ⟨hnone, hnone'⟩ | ⟨t, u, ht, hu, hcopies, hnames⟩
    · rw [hnone, hnone']
      rfl
    · rw [ht, hu]
      exact congrArg some (view_within_eq h hcopies hnames hmapped' start stop)

end Snapshot

end MarketBars
