namespace MarketBars

def twoTo (n : Nat) : Nat := Nat.pow 2 n

def tenTo (n : Nat) : Nat := Nat.pow 10 n

/-- The integer fits a word of some bits, one of which is for the sign. -/
def fitsSigned (bits : Nat) (i : Int) : Bool :=
  decide (-(twoTo (bits - 1) : Int) ≤ i ∧ i < (twoTo (bits - 1) : Int))

theorem twoTo_pos (n : Nat) : 0 < twoTo n := Nat.pow_pos (by decide)

theorem twoTo_succ (n : Nat) : twoTo (n + 1) = 2 * twoTo n := by
  rw [twoTo, Nat.pow, Nat.mul_comm]
  rfl

end MarketBars
