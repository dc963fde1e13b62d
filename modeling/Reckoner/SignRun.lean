import Reckoner.Token

namespace Reckoner

/-!
# Runs of signs

Before an operand any number of signs may stand, plus and minus mixed.  All
that such a run amounts to is whether it negates, which it does when the number
of its minus signs is odd.  The module says how the run at the front of some
tokens is found and how its minus signs are counted.

A count is taken without bound by default.  It can also be kept in a machine
word.  In a signed word of 32 bits the count becomes negative after `2 ^ 31`
minus signs, and the remainder of an odd negative count is minus one, so an odd
run of that length is taken for an even one.  An unsigned word of 64 bits keeps
the parity, as its size is even.
-/

/-- The number in which the minus signs of a run are counted. -/
inductive SignCounter where
  | unbounded
  | signed32
  | unsigned64
  deriving DecidableEq

/-- Whether a count is seen to be odd, by its remainder after division by two
being one. -/
def SignCounter.seesOdd : SignCounter -> Nat -> Bool
  | unbounded, count => count % 2 == 1
  | signed32, count => Int32.ofNat count % 2 == 1
  | unsigned64, count => UInt64.ofNat count % 2 == 1

/-- The counters that the two readings of an expression use. -/
structure SignCounters where
  descent : SignCounter
  yard : SignCounter

namespace SignCounters

/-- Counters for any number of signs. -/
def unbounded : SignCounters := ⟨.unbounded, .unbounded⟩

/-- The machine words in which signs are counted.  They are not the same for
both readings. -/
def words : SignCounters := ⟨.signed32, .unsigned64⟩

end SignCounters

namespace SignRun

/-- The signs at the front of some tokens. -/
def front (tokens : List Token) : List Token :=
  tokens.takeWhile Token.isSign

/-- What follows the signs at the front. -/
def behind (tokens : List Token) : List Token :=
  tokens.dropWhile Token.isSign

/-- Whether a run of signs negates the operand behind it. -/
def negates (counter : SignCounter) (run : List Token) : Bool :=
  counter.seesOdd (run.countP Token.isNegating)

theorem length_behind_le (tokens : List Token) : (behind tokens).length ≤ tokens.length :=
  (List.dropWhile_suffix _).length_le

theorem front_append_behind (tokens : List Token) : front tokens ++ behind tokens = tokens :=
  List.takeWhile_append_dropWhile

end SignRun
end Reckoner
