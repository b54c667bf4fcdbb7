import NumericWire.Base10000
/-!
# NumericWire.Base10000.Reader

A **one-shot reader** of the base-10000 digits of an integer, least significant first.
A reader owns the quotient that is still to be split: `next` takes one digit off,
`drain` takes all that are left, and a reader that has given its last digit stays
exhausted. A negative integer is refused at the first read, not when the reader is made;
after that refusal the reader is exhausted as well.

`readAll` reads up to the end by single reads, and checks on the way that what is handed out
are digits.
-/

namespace NumericWire

namespace Base10000

/-- What a reader has still to give. -/
inductive Reader
  /-- A negative integer, not yet refused. -/
  | refusing (value : Int)
  /-- The digits of `quotient` are still to come, at least one. -/
  | reading (quotient : Nat)
  /-- Nothing is left. -/
  | exhausted
  deriving DecidableEq, Repr

namespace Reader

/-- A fresh reader of an integer's digits. -/
def ofInt (value : Int) : Reader :=
  if value < 0 then refusing value else reading value.toNat

/-- Takes the next digit; `none` at the end. The error is the negative integer that has
no digits. -/
def next : Reader → Except Int (Option Nat) × Reader
  | refusing value => (.error value, exhausted)
  | reading q => (.ok (some (q % base)), if q / base = 0 then exhausted else reading (q / base))
  | exhausted => (.ok none, exhausted)

/-- Takes all digits that are left. The error is as for `next`. -/
def drain : Reader → Except Int (List Nat) × Reader
  | refusing value => (.error value, exhausted)
  | reading q => (.ok (digits q).reverse, exhausted)
  | exhausted => (.ok [], exhausted)

@[simp] theorem next_exhausted : exhausted.next = (.ok none, exhausted) := rfl

@[simp] theorem drain_exhausted : exhausted.drain = (.ok [], exhausted) := rfl

/-- Draining leaves nothing behind. -/
@[simp] theorem drain_snd (r : Reader) : r.drain.2 = exhausted := by cases r <;> rfl

/-- The last digit is the quotient itself. -/
theorem next_reading_of_lt {q : Nat} (h : q < base) :
    (reading q).next = (.ok (some q), exhausted) := by
  rw [next, Nat.mod_eq_of_lt h, Nat.div_eq_of_lt h, if_pos rfl]

/-- Any other digit is a remainder, and the reader goes on with the quotient. -/
theorem next_reading_of_le {q : Nat} (h : base ≤ q) :
    (reading q).next = (.ok (some (q % base)), reading (q / base)) := by
  have hquotient : q / base ≠ 0 := Nat.ne_of_gt (Nat.div_pos h (by decide))
  rw [next, if_neg hquotient]

/-- A reader of a natural number has all its digits still to give. -/
theorem ofInt_natCast (n : Nat) : ofInt n = reading n := by
  have hnonneg : ¬ (n : Int) < 0 := by omega
  rw [ofInt, if_neg hnonneg, Int.toNat_natCast]

/-! ### Reading up to the end -/

/-- What would end single reads before the last digit. -/
inductive Interruption
  /-- A negative integer has no digits. -/
  | negative (value : Int)
  /-- What was handed out is no digit. -/
  | outOfRange (remainder : Nat)
  deriving DecidableEq, Repr

/-- A bound on the digits that are still to come. -/
def bound : Reader → Nat
  | reading q => q + 1
  | _ => 0

/-- Every digit that is handed out lowers the bound. -/
theorem bound_next_lt {r r' : Reader} {d : Nat} (h : r.next = (.ok (some d), r')) :
    r'.bound < r.bound := by
  cases r with
  | refusing value => simp [next] at h
  | exhausted => simp at h
  | reading q =>
    rcases Nat.lt_or_ge q base with hlt | hle
    · rw [next_reading_of_lt hlt] at h
      obtain rfl := (Prod.mk.inj h).2
      exact Nat.succ_pos q
    · rw [next_reading_of_le hle] at h
      obtain rfl := (Prod.mk.inj h).2
      have hpos : 0 < q := Nat.lt_of_lt_of_le (by decide) hle
      exact Nat.succ_lt_succ (Nat.div_lt_self hpos (by decide))

/-- Takes one digit after the other up to the end, and checks that each of them is a digit. -/
def readAll (r : Reader) : Except Interruption (List Nat) :=
  match h : r.next with
  | (.error value, _) => .error (.negative value)
  | (.ok none, _) => .ok []
  | (.ok (some d), r') =>
    have : r'.bound < r.bound := bound_next_lt h
    if d ≤ maxDigit then r'.readAll.map (d :: ·) else .error (.outOfRange d)
termination_by r.bound

theorem readAll_refusing (value : Int) :
    (refusing value).readAll = .error (.negative value) := by
  rw [readAll]
  rfl

theorem readAll_exhausted : exhausted.readAll = .ok [] := by
  rw [readAll]
  rfl

/-- A digit that is taken comes in front of those that are left. -/
theorem readAll_of_next {r r' : Reader} {d : Nat} (h : r.next = (.ok (some d), r'))
    (hd : d < base) : r.readAll = r'.readAll.map (d :: ·) := by
  have hdigit : d ≤ maxDigit := Nat.le_pred_of_lt hd
  rw [readAll]
  split
  · simp_all
  · simp_all
  · rename_i hnext
    rw [h] at hnext
    obtain ⟨hsame, rfl⟩ := Prod.mk.inj hnext
    obtain rfl := Option.some.inj (Except.ok.inj hsame)
    rw [if_pos hdigit]

/-! ### Steps -/

/-- One way of reading. -/
inductive Step
  | next
  | drain
  deriving DecidableEq, Repr

/-- What one step hands out. -/
inductive Output
  /-- One digit. -/
  | digit (d : Nat)
  /-- The end was reached before. -/
  | stop
  /-- All remaining digits, least significant first. -/
  | digits (ds : List Nat)
  /-- The integer is negative and has no digits. -/
  | refused (value : Int)
  deriving DecidableEq, Repr

/-- One step: what it hands out, and the reader behind it. -/
def step (r : Reader) : Step → Output × Reader
  | .next =>
    match r.next with
    | (.ok (some d), r) => (.digit d, r)
    | (.ok none, r) => (.stop, r)
    | (.error value, r) => (.refused value, r)
  | .drain =>
    match r.drain with
    | (.ok ds, r) => (.digits ds, r)
    | (.error value, r) => (.refused value, r)

/-- The outputs of several steps on one reader, in order. -/
def run (r : Reader) : List Step → List Output
  | [] => []
  | s :: rest => (r.step s).1 :: (r.step s).2.run rest

end Reader

end Base10000

end NumericWire
