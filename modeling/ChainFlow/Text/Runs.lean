/-!
# Runs of characters

A set of characters is given by the code points at which its runs begin and end, in ascending order:
a run begins at each bound with an even position and ends before the bound that follows.
-/

namespace ChainFlow.Text

/-- How many of some ascending bounds lie at or below a code point. -/
def boundsBelow (bounds : Array Nat) (n : Nat) : Nat := search bounds.size 0 bounds.size
where
  /-- Bisects the interval between `low` and `high`; `fuel` is at least its length. -/
  search : Nat → Nat → Nat → Nat
    | 0, low, _ => low
    | fuel + 1, low, high =>
      if low < high then
        let middle := (low + high) / 2
        if bounds.getD middle 0 ≤ n then search fuel (middle + 1) high
        else search fuel low middle
      else low

/-- Whether a character lies in one of the runs between some bounds. -/
def inRuns (bounds : Array Nat) (c : Char) : Bool := boundsBelow bounds c.toNat % 2 == 1

end ChainFlow.Text
