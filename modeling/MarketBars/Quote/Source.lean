import MarketBars.Quote.Kline

/-!
# Quote sources

A quote source is used through connections: one is opened, pages are asked for on it, and it is closed.
What a source does may depend on all that happened before; this is its state.

A source promises that the pages of a request come to an end: each page that leads to another one
uses up a part of a budget. Following the pages is thereby a total function, and no client has to
limit their number.
-/

namespace MarketBars

/-- How a source of candlesticks is used. The states of the source are in `σ`, its connections in
`ι`. -/
structure QuoteSource (σ ι : Type) where
  connect : σ → Except DataError ι × σ
  page : ι → KlineRequest → σ → Except DataError KlinePage × σ
  close : ι → σ → σ
  /-- A bound on the number of pages that still lead to another page. -/
  budget : ι → KlineRequest → σ → Nat
  budget_lt : ∀ conn r s p s' key, page conn r s = (.ok p, s') → p.next? = some key →
    budget conn (r.continued key) s' < budget conn r s

inductive SessionEvent (ι : Type) where
  | opened (conn : ι)
  | requested (conn : ι) (request : KlineRequest)
  | closed (conn : ι)
  deriving DecidableEq

namespace QuoteSource

variable {σ ι : Type}

/-- The same source, which keeps a list of what happened. -/
def traced (source : QuoteSource σ ι) : QuoteSource (σ × List (SessionEvent ι)) ι where
  connect := fun (s, events) =>
    match source.connect s with
    | (.ok conn, s') => (.ok conn, s', events ++ [.opened conn])
    | (.error e, s') => (.error e, s', events)
  page := fun conn r (s, events) =>
    let (answer, s') := source.page conn r s
    (answer, s', events ++ [.requested conn r])
  close := fun conn (s, events) => (source.close conn s, events ++ [.closed conn])
  budget := fun conn r (s, _) => source.budget conn r s
  budget_lt := by
    intro conn r s p s' key h hk
    simp only [Prod.mk.injEq] at h
    exact source.budget_lt conn r s.1 p s'.1 key (Prod.ext h.1 (congrArg Prod.fst h.2)) hk

end QuoteSource

/-- The pages that a source still has to play back, for each code that it knows. -/
abbrev PageScript := List (String × List (Except DataError KlinePage))

namespace PageScript

def size (script : PageScript) : Nat :=
  script.foldr (fun entry n => entry.2.length + n) 0

/-- Takes the next page of a code. There is none for a code that is not known; a known code whose pages
are used up has an empty page, which is the last one. -/
def take (code : String) : PageScript → Except DataError KlinePage × PageScript
  | [] => (.error (.sourceUnavailable code "unknown stock"), [])
  | (c, pages) :: rest =>
    if c = code then (pages.headD (.ok ⟨[], none⟩), (c, pages.tail) :: rest)
    else
      let took := take code rest
      (took.1, (c, pages) :: took.2)

/-- A page that leads to another one is a page of the script, which is then shorter. -/
theorem size_take_lt (code : String) (script script' : PageScript) (p : KlinePage) (key : String)
    (h : take code script = (.ok p, script')) (hk : p.next? = some key) :
    script'.size < script.size := by
  induction script generalizing script' with
  | nil => simp [take] at h
  | cons entry rest ih =>
    obtain ⟨c, pages⟩ := entry
    unfold take at h
    split at h
    · cases pages with
      | nil =>
        simp only [List.headD_nil, Prod.mk.injEq, Except.ok.injEq] at h
        simp [← h.1] at hk
      | cons page pages =>
        simp only [Prod.mk.injEq] at h
        simp [← h.2, size]
    · simp only [Prod.mk.injEq] at h
      have := ih (take code rest).2 (Prod.ext h.1 rfl)
      rw [← h.2]
      simp only [size, List.foldr_cons] at this ⊢
      omega

/-- A source that plays back pages. Connecting fails if an error is given for it. -/
def source (connectError? : Option DataError) : QuoteSource PageScript Unit where
  connect := fun s =>
    match connectError? with
    | some e => (.error e, s)
    | none => (.ok (), s)
  page := fun _ r s => take r.code s
  close := fun _ s => s
  budget := fun _ _ s => size s
  budget_lt := fun _ r s p s' key h hk => size_take_lt r.code s s' p key h hk

end PageScript

end MarketBars
