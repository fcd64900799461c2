import MarketBars.Proofs.Table.Cut

namespace MarketBars

/-- The row is stamped up to an instant, as far as milliseconds tell. Without an instant there is no
such row. -/
def Row.isUpTo (last? : Option Instant) (r : Row) : Bool :=
  last?.any fun last => r.stamp.millis?.any fun ms => decide (ms ≤ last.millis)

namespace Table

def upTo (last? : Option Instant) (t : Table) : Table :=
  t.withRows (t.rows.filter (Row.isUpTo last?)) fun _ hr => (List.mem_filter.mp hr).1

variable {last? : Option Instant} {t : Table}

theorem upTo_eq_cut (last? : Option Instant) :
    upTo last? = cut fun ms => last?.any fun last => decide (ms ≤ last.millis) := by
  funext t
  refine eq_of_names_of_rows rfl (List.filter_congr fun r _ => ?_)
  rw [Row.isUpTo, Row.passes]
  cases last? with
  | none => cases r.stamp.millis? <;> rfl
  | some last => rfl

/-- Tables whose rows are stamped with times are cut before or after repeated timestamps are dropped. -/
theorem upTo_dedupFirst (h : t.IsStamped) :
    t.dedupFirst.upTo last? = (t.upTo last?).dedupFirst := by
  rw [upTo_eq_cut, cut_dedupFirst h]

/-- A window that ends by an instant has rows up to that instant only. -/
theorem within_upTo (start : Instant) {stop last : Instant} (h : stop.millis ≤ last.millis)
    (t : Table) :
    (t.upTo (some last)).within start stop = t.within start stop := by
  refine eq_of_names_of_rows rfl ?_
  change (t.rows.filter (Row.isUpTo (some last))).filter (Row.isWithin start stop) =
    t.rows.filter (Row.isWithin start stop)
  rw [List.filter_filter]
  refine List.filter_congr fun r _ => ?_
  rw [Bool.and_eq_left_iff_imp, Row.isWithin, Row.isUpTo]
  cases r.stamp.millis? with
  | none => exact id
  | some ms =>
    simp only [Option.any_some, Bool.and_eq_true, decide_eq_true_eq]
    exact fun hin => Int.le_trans hin.2 h

end Table

end MarketBars
