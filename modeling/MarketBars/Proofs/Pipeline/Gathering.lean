import MarketBars.Pipeline
import MarketBars.Proofs.Panel.Shown

namespace MarketBars

namespace Plan

variable {σ : Type}

/-- What a source answers for some tickers in turn, whatever comes of it. -/
def replies (fetch : Fetcher σ) (plan : Plan) :
    List Ticker → σ → List (Ticker × Except DataError Table)
  | [], _ => []
  | ticker :: rest, s =>
    (ticker, (fetch (plan.call ticker) s).result) ::
      replies fetch plan rest (fetch (plan.call ticker) s).state

theorem map_fst_replies (fetch : Fetcher σ) (plan : Plan) (tickers : List Ticker) (s : σ) :
    (plan.replies fetch tickers s).map Prod.fst = tickers := by
  induction tickers generalizing s with
  | nil => rfl
  | cons ticker rest ih => rw [replies, List.map_cons, ih]

theorem exists_of_mem_replies {fetch : Fetcher σ} {plan : Plan} {tickers : List Ticker} {s : σ}
    {reply : Ticker × Except DataError Table} (h : reply ∈ plan.replies fetch tickers s) :
    ∃ s', (fetch (plan.call reply.1) s').result = reply.2 := by
  induction tickers generalizing s with
  | nil => cases h
  | cons ticker rest ih =>
    rcases List.mem_cons.mp h with rfl | hrest
    · exact ⟨s, rfl⟩
    · exact ih hrest

/-- What comes of some replies: an error that concerns a single ticker leaves the ticker out, and any
other error is the error of them all. -/
def settled {α : Type} : List (Ticker × Except DataError α) → Except DataError (List (Ticker × α))
  | [] => .ok []
  | (_, .error e) :: rest => if e.isPerTicker then settled rest else .error e
  | (ticker, .ok a) :: rest => (settled rest).map ((ticker, a) :: ·)

/-- The same replies, with their successes turned into something else. -/
def mapReplies {α β : Type} (f : α → β) (replies : List (Ticker × Except DataError α)) :
    List (Ticker × Except DataError β) :=
  replies.map fun reply => (reply.1, reply.2.map f)

/-- Replies can be settled before or after their successes are turned into something else. -/
theorem settled_mapReplies {α β : Type} (f : α → β) (replies : List (Ticker × Except DataError α)) :
    settled (mapReplies f replies) =
      (settled replies).map (List.map fun entry => (entry.1, f entry.2)) := by
  induction replies with
  | nil => rfl
  | cons reply rest ih =>
    obtain ⟨ticker, e | a⟩ := reply
    · have hcons : mapReplies f ((ticker, .error e) :: rest) =
          (ticker, .error e) :: mapReplies f rest := rfl
      rw [hcons, settled, settled]
      split
      · exact ih
      · rfl
    · have hcons : mapReplies f ((ticker, .ok a) :: rest) =
          (ticker, .ok (f a)) :: mapReplies f rest := rfl
      rw [hcons, settled, settled, ih]
      cases settled rest <;> rfl

/-- Fetching is settling the replies, cut to the requested fields. The replies after the error that ends
the fetching are never asked for, but they do not count either. -/
theorem gatherFrom_eq_settled (fetch : Fetcher σ) (plan : Plan) (tickers : List Ticker) (s : σ) :
    (gatherFrom fetch plan tickers s).result =
      settled (mapReplies (Table.project · plan.fields) (plan.replies fetch tickers s)) := by
  rw [settled_mapReplies]
  -- The state is handed on from reply to reply, so the induction is for every state.
  induction tickers generalizing s with
  | nil => rfl
  | cons ticker rest ih =>
    simp only [gatherFrom, replies]
    cases hgot : (fetch (plan.call ticker) s).result with
    | error e =>
      simp only [settled]
      split
      · exact ih _
      · rfl
    | ok table =>
      simp only [settled, ih]
      cases settled (plan.replies fetch rest (fetch (plan.call ticker) s).state) <;> rfl

/-- A successful reply counts, cut to the requested fields. -/
def kept (plan : Plan) : Ticker × Except DataError Table → Option (Ticker × Table)
  | (ticker, .ok table) => some (ticker, table.project plan.fields)
  | (_, .error _) => none

/-- The settled replies are the successful ones. -/
theorem settled_eq_ok {plan : Plan} {replies : List (Ticker × Except DataError Table)}
    {tables : List (Ticker × Table)}
    (h : settled (mapReplies (Table.project · plan.fields) replies) = .ok tables) :
    tables = replies.filterMap plan.kept := by
  rw [settled_mapReplies] at h
  induction replies generalizing tables with
  | nil =>
    cases h
    rfl
  | cons reply rest ih =>
    obtain ⟨ticker, e | table⟩ := reply
    · simp only [settled] at h
      split at h
      · exact ih h
      · cases h
    · simp only [settled] at h
      cases hmore : settled rest with
      | error e =>
        rw [hmore] at h
        cases h
      | ok more =>
        rw [hmore] at h ih
        cases h
        rw [List.filterMap_cons, kept, ← ih rfl]
        rfl

/-- A plan whose window is not empty gathers the replies for its distinct tickers. -/
theorem gather_eq_settled {fetch : Fetcher σ} {plan : Plan} {s : σ}
    (hwindow : plan.window.isEmpty = false) :
    (plan.gather fetch s).result = settled (mapReplies (Table.project · plan.fields)
      (plan.replies fetch (distinctTickers plan.tickers) s)) := by
  simp only [gather, hwindow]
  exact gatherFrom_eq_settled fetch plan _ s

/-- The answer to some tables is their collapsed panel, when their timestamps can be read and there is
a table at all. -/
theorem answer_eq (plan : Plan) (tables : List (Ticker × Table)) :
    plan.answer tables =
      if tables.isEmpty && !plan.tickers.isEmpty then
        .error (.noDataFound (String.intercalate ", " (plan.tickers.map Ticker.symbol)))
      else
        (Cube.stampsOf tables).map fun stamps =>
          (Cube.panel (Cube.sortedInstants stamps.flatten) (Cube.lookup tables) plan.tickers
            plan.fields plan.fields).squeeze plan.flags := by
  unfold answer
  split
  · rfl
  · rw [Cube.assemble_eq]
    cases Cube.stampsOf tables with
    | error e => rfl
    | ok stamps => exact congrArg Except.ok (Cube.normalize_union _ _ _ _ _)

/-- A plan that is answered has gathered tables, of which the answer is the collapsed panel. -/
theorem run_eq_ok {fetch : Fetcher σ} {plan : Plan} {s : σ} {history : History}
    (h : (plan.run fetch s).result = .ok history) :
    ∃ tables stamps, (plan.gather fetch s).result = .ok tables ∧
      Cube.stampsOf tables = .ok stamps ∧
      history = (Cube.panel (Cube.sortedInstants stamps.flatten) (Cube.lookup tables) plan.tickers
        plan.fields plan.fields).squeeze plan.flags := by
  simp only [run] at h
  cases hgot : (plan.gather fetch s).result with
  | error e =>
    rw [hgot] at h
    cases h
  | ok tables =>
    simp only [hgot, answer_eq] at h
    split at h
    · cases h
    · cases hstamps : Cube.stampsOf tables with
      | error e =>
        rw [hstamps] at h
        cases h
      | ok stamps =>
        rw [hstamps] at h
        cases h
        exact ⟨tables, stamps, rfl, hstamps, rfl⟩

/-- The same plan, with other axes collapsed. -/
def shaped (plan : Plan) (flags : SqueezeFlags) : Plan :=
  { plan with flags }

def unsqueezed (plan : Plan) : Plan :=
  { plan with flags := ⟨false, false, false⟩ }

/-- Which axes are collapsed does not matter for what is fetched. -/
theorem gather_shaped (fetch : Fetcher σ) (plan : Plan) (flags : SqueezeFlags) (s : σ) :
    (plan.shaped flags).gather fetch s = plan.gather fetch s := by
  have hfrom : ∀ tickers s, (plan.shaped flags).gatherFrom fetch tickers s =
      plan.gatherFrom fetch tickers s := by
    intro tickers
    induction tickers with
    | nil => intro s; rfl
    | cons ticker rest ih =>
      intro s
      have hcall : (plan.shaped flags).call ticker = plan.call ticker := rfl
      have hnote : ∀ t, (plan.shaped flags).missingNote ticker t = plan.missingNote ticker t := fun _ => rfl
      simp only [gatherFrom, hcall, hnote, ih]
      rfl
  simp only [gather, hfrom]
  rfl

/-- A plan that is answered fills a cube, which its flags collapse. Other flags collapse the same cube. -/
theorem exists_panel {fetch : Fetcher σ} {plan : Plan} {s : σ} {history : History}
    (h : (plan.run fetch s).result = .ok history) :
    ∃ tables stamps, (plan.gather fetch s).result = .ok tables ∧ Cube.stampsOf tables = .ok stamps ∧
      history = (Cube.panel (Cube.sortedInstants stamps.flatten) (Cube.lookup tables) plan.tickers
        plan.fields plan.fields).squeeze plan.flags ∧
      ∀ flags, ((plan.shaped flags).run fetch s).result = .ok ((Cube.panel
        (Cube.sortedInstants stamps.flatten) (Cube.lookup tables) plan.tickers plan.fields
        plan.fields).squeeze flags) := by
  obtain ⟨tables, stamps, hgather, hstamps, hhistory⟩ := run_eq_ok h
  refine ⟨tables, stamps, hgather, hstamps, hhistory, ?_⟩
  intro flags
  have htickers : (plan.shaped flags).tickers = plan.tickers := rfl
  simp only [run, hgather, answer_eq, hstamps] at h
  simp only [run, gather_shaped, hgather, answer_eq, hstamps, htickers]
  split at h
  · cases h
  · rename_i hdata
    rw [if_neg hdata]
    rfl

/-- A plan that is answered fills a cube, which is the answer when all axes are kept. -/
theorem exists_cube {fetch : Fetcher σ} {plan : Plan} {s : σ} {history : History}
    (h : (plan.run fetch s).result = .ok history) :
    ∃ tables stamps, (plan.gather fetch s).result = .ok tables ∧ Cube.stampsOf tables = .ok stamps ∧
      history = (Cube.panel (Cube.sortedInstants stamps.flatten) (Cube.lookup tables) plan.tickers
        plan.fields plan.fields).squeeze plan.flags ∧
      (plan.unsqueezed.run fetch s).result = .ok (.cube (Cube.panel
        (Cube.sortedInstants stamps.flatten) (Cube.lookup tables) plan.tickers plan.fields
        plan.fields)) := by
  obtain ⟨tables, stamps, hgather, hstamps, hhistory, hshaped⟩ := exists_panel h
  exact ⟨tables, stamps, hgather, hstamps, hhistory, hshaped ⟨false, false, false⟩⟩

end Plan

end MarketBars
