/-!
Sets of code points, written as the lengths of the runs they cut the code points into.
-/

namespace LiveSwap.Text

/-- Whether `n` lies in a set given by run lengths. The first run is on side `inside`, the next on the
other, and so on; what follows the last run is on the side whose turn it is. -/
def inRuns : Bool → List Nat → Nat → Bool
  | inside, [], _ => inside
  | inside, run :: runs, n => if n < run then inside else inRuns (!inside) runs (n - run)

/-- Below the first run's length its side decides. -/
theorem inRuns_of_lt {inside : Bool} {run n : Nat} (runs : List Nat) (h : n < run) :
    inRuns inside (run :: runs) n = inside := by
  simp [inRuns, h]

/-- Past the first run the other side takes over. -/
theorem inRuns_add (inside : Bool) (run n : Nat) (runs : List Nat) :
    inRuns inside (run :: runs) (run + n) = inRuns (!inside) runs n := by
  rw [inRuns, if_neg (by omega), Nat.add_sub_cancel_left]

end LiveSwap.Text
