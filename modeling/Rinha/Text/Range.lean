/-!
# Rinha.Text.Range

Classes of characters as tables.  A table is a list of closed ranges of code points, ascending and
apart, and `within` looks a character up.
-/

namespace Rinha.Text

/-- Whether a character lies in one of the ranges, which are given by their first and last one. -/
def within (ranges : List (Nat × Nat)) (c : Char) : Bool :=
  ranges.any fun (first, last) => first ≤ c.toNat && c.toNat ≤ last

/-- Whether the ranges ascend and no two of them touch. -/
def areApart : List (Nat × Nat) → Bool
  | [] => true
  | [(first, last)] => first ≤ last
  | (first, last) :: (next, nextLast) :: rest =>
    first ≤ last && last + 1 < next && areApart ((next, nextLast) :: rest)

/-- How many code points the ranges hold. -/
def rangeCount (ranges : List (Nat × Nat)) : Nat :=
  ranges.foldl (fun count (first, last) => count + (last + 1 - first)) 0

end Rinha.Text
