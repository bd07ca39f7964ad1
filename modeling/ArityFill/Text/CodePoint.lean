/-! # Classes of characters

    A property of characters that no simple rule describes is kept as a table: the closed ranges of
    the code points that have it, in increasing order.
-/

namespace ArityFill.Text

/-- Whether a code point lies in one of some closed ranges. -/
def inRanges (ranges : List (Nat × Nat)) (n : Nat) : Bool :=
  ranges.any fun (lo, hi) => lo ≤ n ∧ n ≤ hi

end ArityFill.Text
