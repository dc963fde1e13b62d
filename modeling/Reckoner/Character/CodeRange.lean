namespace Reckoner

/-!
# Sets of characters as ascending code ranges

A character property of the Unicode standard covers many thousands of
characters but changes at few places.  It is kept here as the list of its
ranges of code points, both ends included, in ascending order.  Membership
reads the list from the left and stops at the first range that lies beyond the
character, so that the frequent questions, which are about low code points, end
at once.
-/

/-- A range of code points, both ends included. -/
structure CodeRange where
  first : Nat
  last : Nat

namespace CodeRange

/-- Whether a code point lies in one of the ranges of an ascending list. -/
def mem (code : Nat) : List CodeRange -> Bool
  | [] => false
  | range :: rest =>
    if code < range.first then false
    else if code ≤ range.last then true
    else mem code rest

/-- The ranges are in order and leave a gap between neighbours, so that the
list is the shortest one of its set. -/
def Ascending : List CodeRange -> Prop
  | [] => True
  | [range] => range.first ≤ range.last
  | range :: next :: rest =>
    range.first ≤ range.last ∧ range.last + 1 < next.first ∧ Ascending (next :: rest)

instance decidableAscending : (ranges : List CodeRange) -> Decidable (Ascending ranges)
  | [] => isTrue trivial
  | [range] => inferInstanceAs (Decidable (range.first ≤ range.last))
  | range :: next :: rest =>
    haveI := decidableAscending (next :: rest)
    inferInstanceAs (Decidable
      (range.first ≤ range.last ∧ range.last + 1 < next.first ∧ Ascending (next :: rest)))

end CodeRange
end Reckoner
