import MarketBars.Proofs.Panel.Assembly

/-!
# Writing tables into a cube

A cube is assembled by writing: an array of missing values is made for the sorted timestamps of all tables,
and then every row of every table writes its values to the places of its date, table and fields. A later row
of a date writes over an earlier one. Since different positions have different places, nothing is written to
a place of another date, table or field, and nothing outside of the array.
-/

namespace MarketBars

namespace Cube

/-- The values of three axes, the last one first. -/
def grid (D T F : Nat) (g : Nat → Nat → Nat → Value) : Array Value :=
  Array.ofFn fun i : Fin (D * T * F) => g (i / F / T) (i / F % T) (i % F)

/-- A value is written to a place, if it is inside of the array. -/
def put? (values : Array Value) (place : Nat) (v : Value) : Option (Array Value) :=
  if h : place < values.size then some (values.set place v h) else none

/-- A row writes the values that its table has of it, one for each column. -/
def writeCells? (place : Nat → Nat) (row : Nat) (columns : List (Option (List Value)))
    (values : Array Value) : Option (Array Value) :=
  columns.zipIdx.foldlM (fun values p =>
    match p.1 with
    | none => some values
    | some column => column[row]?.bind (put? values (place p.2))) values

/-- The rows of the table at a position write their values, one after the other. -/
def writeRows? (dates : List Instant) (T F table : Nat) (stamps : List Instant)
    (columns : List (Option (List Value))) (values : Array Value) : Option (Array Value) :=
  stamps.zipIdx.foldlM (fun values p =>
    (dates.idxOf? p.1).bind fun d =>
      writeCells? (fun f => (d * T + table) * F + f) p.2 columns values) values

/-- The tables write their values, one after the other. -/
def scatter? (dates : List Instant) (F : Nat)
    (parts : List (List Instant × List (Option (List Value)))) : Option (Array Value) :=
  parts.zipIdx.foldlM (fun values p =>
    writeRows? dates parts.length F p.2 p.1.1 p.1.2 values)
    (Array.replicate (dates.length * parts.length * F) none)

/-- Tables of several tickers over the ascending union of their timestamps, assembled by writing. -/
def assembleByWrites (tables : List (Ticker × Table)) (fields : List String) :
    Except DataError (Option Cube) :=
  (tables.mapM fun e : Ticker × Table =>
    e.2.stamps.map fun stamps => (stamps, fields.map e.2.values?)).map fun parts =>
    let dates := sortedInstants (parts.map Prod.fst).flatten
    (scatter? dates fields.length parts).bind
      (ofValues? dates (tables.map Prod.fst) fields)

/-- A loop that goes on from each state to the next one ends with the last one. -/
theorem foldlM_zipIdx {α σ : Type} {step : σ → α × Nat → Option σ} {xs : List α} (state : Nat → σ)
    (h : ∀ i x, xs[i]? = some x → step (state i) (x, i) = some (state (i + 1))) :
    xs.zipIdx.foldlM step (state 0) = some (state xs.length) := by
  have hfrom : ∀ (rest : List α) (k : Nat),
      (∀ i x, rest[i]? = some x → step (state (k + i)) (x, k + i) = some (state (k + i + 1))) →
        (rest.zipIdx k).foldlM step (state k) = some (state (k + rest.length)) := by
    intro rest
    induction rest with
    | nil => exact fun k _ => rfl
    | cons x rest ih =>
      intro k hstep
      have hfirst : step (state k) (x, k) = some (state (k + 1)) := hstep 0 x rfl
      have hrest := ih (k + 1) fun i y hy => by
        have hnext := hstep (i + 1) y hy
        rwa [show k + (i + 1) = k + 1 + i by omega] at hnext
      rw [List.zipIdx_cons, List.foldlM_cons, hfirst, List.length_cons,
        show k + (rest.length + 1) = k + 1 + rest.length by omega]
      exact hrest
  have hall := hfrom xs 0 fun i x hx => by
    rw [Nat.zero_add]
    exact h i x hx
  rwa [Nat.zero_add] at hall

section Grid

variable {D T F : Nat} {g g' : Nat → Nat → Nat → Value}

@[simp] theorem size_grid : (grid D T F g).size = D * T * F := by
  simp [grid]

theorem grid_congr (h : ∀ d t f, d < D → t < T → f < F → g d t f = g' d t f) :
    grid D T F g = grid D T F g' := by
  unfold grid
  congr 1
  funext i
  obtain ⟨hd, ht, hf⟩ := positions_of_lt i.isLt
  exact h _ _ _ hd ht hf

/-- A write changes the value at its positions, and no other. -/
theorem put?_grid {d t f : Nat} (hd : d < D) (ht : t < T) (hf : f < F) (v : Value) :
    put? (grid D T F g) ((d * T + t) * F + f) v = some (grid D T F fun d' t' f' =>
      if d' = d ∧ t' = t ∧ f' = f then v else g d' t' f') := by
  have hlt : (d * T + t) * F + f < (grid D T F g).size := by
    rw [size_grid]
    exact position_lt hd ht hf
  rw [put?, dif_pos hlt]
  congr 1
  apply Array.ext
  · simp
  · intro i hi hi'
    rw [Array.getElem_set]
    simp only [grid, Array.getElem_ofFn, place_eq_iff ht hf]

theorem replicate_eq_grid (D T F : Nat) :
    Array.replicate (D * T * F) none = grid D T F fun _ _ _ => none := by
  apply Array.ext
  · simp
  · intro i hi hi'
    simp [grid]

/-- Values in which the first `n` fields of a date and a table are written over, where there is something to
write. -/
def written (g : Nat → Nat → Nat → Value) (d t : Nat) (cells : Nat → Option Value) (n : Nat) :
    Nat → Nat → Nat → Value := fun d' t' f' =>
  if d' = d ∧ t' = t ∧ f' < n then (cells f').getD (g d' t' f') else g d' t' f'

theorem written_zero (d t : Nat) (cells : Nat → Option Value) : written g d t cells 0 = g := by
  funext d' t' f'
  exact if_neg fun h => Nat.not_lt_zero f' h.2.2

theorem written_succ (d t : Nat) (cells : Nat → Option Value) (n : Nat) :
    written g d t cells (n + 1) = fun d' t' f' =>
      if d' = d ∧ t' = t ∧ f' = n then (cells n).getD (g d t n) else written g d t cells n d' t' f' := by
  funext d' t' f'
  unfold written
  by_cases hrow : d' = d ∧ t' = t
  · obtain ⟨rfl, rfl⟩ := hrow
    simp only [true_and]
    by_cases hf : f' = n
    · rw [if_pos hf, hf, if_pos (Nat.lt_succ_self n)]
    · rw [if_neg hf]
      by_cases hlt : f' < n
      · rw [if_pos hlt, if_pos (by omega)]
      · rw [if_neg hlt, if_neg (by omega)]
  · rw [if_neg fun h => hrow ⟨h.1, h.2.1⟩, if_neg fun h => hrow ⟨h.1, h.2.1⟩,
      if_neg fun h => hrow ⟨h.1, h.2.1⟩]

/-- A row writes over the values of its date and table for which there is a column. -/
theorem writeCells?_grid {d t row : Nat} {columns : List (Option (List Value))}
    {cells : Nat → Option Value} (hd : d < D) (ht : t < T) (hF : columns.length = F)
    (hcells : ∀ f column?, columns[f]? = some column? →
      column?.map (fun column => column[row]?) = (cells f).map some) :
    writeCells? (fun f => (d * T + t) * F + f) row columns (grid D T F g) =
      some (grid D T F (written g d t cells F)) := by
  have hstart : grid D T F g = grid D T F (written g d t cells 0) := by rw [written_zero]
  unfold writeCells?
  rw [hstart, ← hF]
  refine foldlM_zipIdx (fun i => grid D T columns.length (written g d t cells i)) fun i column? hcolumn => ?_
  have hcell := hcells i column? hcolumn
  have hi : i < columns.length := (List.getElem?_eq_some_iff.mp hcolumn).1
  rw [written_succ]
  cases column? with
  | none =>
    have hnone : cells i = none := Option.map_eq_none_iff.mp hcell.symm
    refine congrArg some (grid_congr fun d' t' f' _ _ _ => ?_)
    split
    · rename_i h
      rw [hnone, h.1, h.2.1, h.2.2]
      exact if_neg fun h => Nat.lt_irrefl i h.2.2
    · rfl
  | some column =>
    obtain ⟨v, hv, hsome⟩ := Option.map_eq_some_iff.mp hcell.symm
    have hread : column[row]? = some v := hsome.symm
    dsimp only
    rw [hread, Option.bind_some, put?_grid hd ht hi, hv]
    rfl

/-- The value of a field in the last of some rows of a table that is stamped with an instant. -/
def valueIn (table : Table) (rows : List Row) (date : Instant) (field : String) : Value :=
  if table.hasName field then
    (rows.reverse.find? fun r => r.instant? = some date).bind fun r =>
      (table.cellNamed field r).number?
  else none

theorem valueIn_nil (table : Table) (date : Instant) (field : String) :
    valueIn table [] date field = none := by
  unfold valueIn
  split <;> rfl

/-- A further row says something of its own date only. -/
theorem valueIn_concat (table : Table) (rows : List Row) (r : Row) (date : Instant) (field : String) :
    valueIn table (rows ++ [r]) date field =
      if r.instant? = some date ∧ table.hasName field then (table.cellNamed field r).number?
      else valueIn table rows date field := by
  unfold valueIn
  rw [List.reverse_concat, List.find?_cons]
  by_cases hname : table.hasName field = true
  · by_cases hdate : r.instant? = some date
    · simp [hname, hdate]
    · simp [hname, hdate]
  · simp [hname]

/-- Values over which the first rows of the table at a position are written. -/
def rowsWritten (g : Nat → Nat → Nat → Value) (dates : List Instant) (fields : List String)
    (table : Table) (t n : Nat) : Nat → Nat → Nat → Value := fun d' t' f' =>
  if t' = t then
    dates[d']?.bind fun date => fields[f']?.bind fun field =>
      valueIn table (table.rows.take n) date field
  else g d' t' f'

/-- What a row of a table has to write. -/
def cellsOf (fields : List String) (table : Table) (r : Row) (f : Nat) : Option Value :=
  fields[f]?.bind fun field =>
    if table.hasName field then some (table.cellNamed field r).number? else none

theorem map_values_eq {fields : List String} {table : Table} {i : Nat} {r : Row}
    (hr : table.rows[i]? = some r) {f : Nat} {column? : Option (List Value)}
    (hcolumn : (fields.map table.values?)[f]? = some column?) :
    column?.map (fun column => column[i]?) = (cellsOf fields table r f).map some := by
  rw [List.getElem?_map] at hcolumn
  obtain ⟨field, hfield, rfl⟩ := Option.map_eq_some_iff.mp hcolumn
  rw [cellsOf, hfield, Option.bind_some, Table.values?]
  split
  · simp [hr]
  · rfl

/-- After a row is written, one more row of the table is. -/
theorem written_rowsWritten {dates : List Instant} {fields : List String} {table : Table} {t i d : Nat}
    {r : Row} (hnodup : dates.Nodup) (hr : table.rows[i]? = some r) (hd : d < dates.length)
    (hdate : r.instant? = some dates[d]) :
    grid dates.length T fields.length (written (rowsWritten g dates fields table t i) d t
      (cellsOf fields table r) fields.length) =
        grid dates.length T fields.length (rowsWritten g dates fields table t (i + 1)) := by
  have htake : table.rows.take (i + 1) = table.rows.take i ++ [r] := by
    rw [List.take_add_one, hr]
    rfl
  refine grid_congr fun d' t' f' hd' _ hf' => ?_
  unfold written rowsWritten
  by_cases htable : t' = t
  · rw [if_pos htable, if_pos htable, htake, List.getElem?_eq_getElem hd',
      List.getElem?_eq_getElem hf', Option.bind_some, Option.bind_some, Option.bind_some,
      Option.bind_some, valueIn_concat, hdate, cellsOf, List.getElem?_eq_getElem hf',
      Option.bind_some]
    -- Only on the date of the row is anything written, for the dates are all different.
    by_cases hsame : d' = d
    · subst hsame
      rw [if_pos ⟨rfl, htable, hf'⟩]
      by_cases hname : table.hasName fields[f'] = true
      · rw [if_pos hname, if_pos ⟨rfl, hname⟩]
        rfl
      · rw [if_neg hname, if_neg fun h => hname h.2]
        rfl
    · have hother : ¬ some dates[d] = some dates[d'] := by
        intro heq
        apply hsame
        rw [← hnodup.idxOf_getElem d' hd', ← Option.some.inj heq, hnodup.idxOf_getElem d hd]
      rw [if_neg fun h => hsame h.1, if_neg fun h => hother h.1]
  · rw [if_neg fun h => htable h.2.1, if_neg htable, if_neg htable]

theorem writeRows?_grid {dates : List Instant} {fields : List String} {table : Table} {t : Nat}
    {stamps : List Instant} (hnodup : dates.Nodup)
    (hstamps : table.rows.map Row.instant? = stamps.map some) (hdates : ∀ date ∈ stamps, date ∈ dates)
    (ht : t < T) (hblank : ∀ d f, g d t f = none) :
    writeRows? dates T fields.length t stamps (fields.map table.values?)
      (grid dates.length T fields.length g) =
        some (grid dates.length T fields.length (rowsWritten g dates fields table t stamps.length)) := by
  have hstart : g = rowsWritten g dates fields table t 0 := by
    funext d' t' f'
    unfold rowsWritten
    split
    · rename_i htable
      rw [htable, hblank]
      simp [valueIn_nil]
    · rfl
  unfold writeRows?
  conv => lhs; rw [hstart]
  refine foldlM_zipIdx (fun i => grid dates.length T fields.length
    (rowsWritten g dates fields table t i)) fun i date hdate => ?_
  have hrow := congrArg (fun l => l[i]?) hstamps
  simp only [List.getElem?_map, hdate, Option.map_some] at hrow
  obtain ⟨r, hr, hinstant⟩ := Option.map_eq_some_iff.mp hrow
  obtain ⟨d, hd⟩ := Option.isSome_iff_exists.mp
    (List.isSome_idxOf?.mpr (hdates date (List.mem_of_getElem? hdate)))
  obtain ⟨hlt, rfl, -⟩ := List.idxOf?_eq_some_iff.mp hd
  dsimp only
  rw [hd, Option.bind_some, writeCells?_grid hlt ht (List.length_map _) fun f column? =>
    map_values_eq hr, written_rowsWritten hnodup hr hlt hinstant]

end Grid

/-- What the first tables say, by position. -/
def tablesWritten (dates : List Instant) (tables : List (Ticker × Table)) (fields : List String)
    (n : Nat) : Nat → Nat → Nat → Value := fun d t f =>
  if t < n then
    dates[d]?.bind fun date => tables[t]?.bind fun e => fields[f]?.bind fun field =>
      valueAt e.2 date field
  else none

theorem rowsWritten_tablesWritten {dates : List Instant} {tables : List (Ticker × Table)}
    {fields : List String} {t T F : Nat} {e : Ticker × Table} (he : tables[t]? = some e) :
    grid dates.length T F (rowsWritten (tablesWritten dates tables fields t) dates fields e.2 t
      e.2.rows.length) = grid dates.length T F (tablesWritten dates tables fields (t + 1)) := by
  refine grid_congr fun d' t' f' _ _ _ => ?_
  unfold rowsWritten tablesWritten
  by_cases htable : t' = t
  · rw [if_pos htable, if_pos (by omega), htable, he, List.take_length]
    rfl
  · rw [if_neg htable]
    by_cases hlt : t' < t
    · rw [if_pos hlt, if_pos (by omega)]
    · rw [if_neg hlt, if_neg (by omega)]

/-- All writes of all tables are inside of the array, and give the union of the tables. -/
theorem scatter?_eq {dates : List Instant} {tables : List (Ticker × Table)} {fields : List String}
    {parts : List (List Instant × List (Option (List Value)))} (hnodup : dates.Nodup)
    (hparts : (tables.mapM fun e : Ticker × Table =>
      e.2.stamps.map fun stamps => (stamps, fields.map e.2.values?)) = .ok parts)
    (hdates : ∀ part ∈ parts, ∀ date ∈ part.1, date ∈ dates) :
    scatter? dates fields.length parts = some (union dates tables fields).values := by
  have hmap := mapM_eq_ok_iff.mp hparts
  have hlength : parts.length = tables.length := by simpa using (congrArg List.length hmap).symm
  have hunion : (union dates tables fields).values =
      grid dates.length parts.length fields.length (tablesWritten dates tables fields parts.length) := by
    have htabulate : (union dates tables fields).values = grid dates.length (tables.map Prod.fst).length
        fields.length fun d t f => dates[d]?.bind fun date => tables[t]?.bind fun e =>
          fields[f]?.bind fun field => valueAt e.2 date field := rfl
    rw [htabulate, List.length_map, ← hlength]
    exact grid_congr fun d t f _ ht _ => (if_pos ht).symm
  unfold scatter?
  rw [replicate_eq_grid, hunion]
  refine foldlM_zipIdx (fun n => grid dates.length parts.length fields.length
    (tablesWritten dates tables fields n)) fun t part hpart => ?_
  obtain ⟨ht, rfl⟩ := List.getElem?_eq_some_iff.mp hpart
  have he : tables[t]? = some tables[t] := List.getElem?_eq_getElem (hlength ▸ ht)
  have hentry := congrArg (fun l => l[t]?) hmap
  simp only [List.getElem?_map, he, hpart, Option.map_some, Option.some.injEq] at hentry
  obtain ⟨stamps, hstamps, hpair⟩ := map_eq_ok_iff.mp hentry
  have hinstants := Table.stamps_eq_ok_iff.mp hstamps
  have hrows : stamps.length = tables[t].2.rows.length := by
    simpa using (congrArg List.length hinstants).symm
  have hmem : ∀ date ∈ stamps, date ∈ dates := by
    have hpartdates := hdates _ (List.getElem_mem ht)
    rwa [← hpair] at hpartdates
  dsimp only
  rw [← hpair, writeRows?_grid hnodup hinstants hmem ht fun d f => if_neg (Nat.lt_irrefl t), hrows,
    rowsWritten_tablesWritten he]

/-- No write fails, and the assembled cube is the tabulated one. -/
theorem assembleByWrites_eq (tables : List (Ticker × Table)) (fields : List String) :
    assembleByWrites tables fields = (assemble tables fields).map some := by
  have hstamps : (tables.mapM fun e : Ticker × Table =>
      e.2.stamps.map fun stamps => (stamps, fields.map e.2.values?)).map (List.map Prod.fst) =
        stampsOf tables := by
    rw [stampsOf_eq_mapM]
    refine map_mapM_eq (fun e => ?_) tables
    cases e.2.stamps <;> rfl
  rw [assemble_eq, ← hstamps, assembleByWrites]
  cases hparts : tables.mapM fun e : Ticker × Table =>
      e.2.stamps.map fun stamps => (stamps, fields.map e.2.values?) with
  | error e => rfl
  | ok parts =>
    refine congrArg Except.ok ?_
    have hnodup : (sortedInstants (parts.map Prod.fst).flatten).Nodup :=
      (sortedInstants_pairwise _).imp fun hlt heq => by
        rw [heq] at hlt
        exact Int.lt_irrefl _ hlt
    have hdates : ∀ part ∈ parts, ∀ date ∈ part.1,
        date ∈ sortedInstants (parts.map Prod.fst).flatten := by
      intro part hpart date hdate
      exact mem_sortedInstants.mpr
        (List.mem_flatten.mpr ⟨part.1, List.mem_map_of_mem hpart, hdate⟩)
    dsimp only
    rw [scatter?_eq hnodup hparts hdates, Option.bind_some]
    exact dif_pos (union _ tables fields).size_eq

end Cube

end MarketBars
