/-!
# NumericWire.Text.Blank

**Blank characters.** Three sets are in use, each inside the next:

* `isAsciiBlank` — the space and the five format effectors from tab to carriage return;
* `isWhiteSpace` — the Unicode property White_Space;
* `isBlank` — White_Space and the four ASCII information separators, U+001C to U+001F.

`isLineBreak` are those blanks that end a line. `trim` removes the characters of a set from
both ends of a text.
-/

namespace NumericWire.Text

/-- The space, tab, line feed, vertical tab, form feed and carriage return. -/
def isAsciiBlank (c : Char) : Bool :=
  c.toNat == 0x20 || (0x9 ≤ c.toNat && c.toNat ≤ 0xD)

/-- The Unicode property White_Space. -/
def isWhiteSpace (c : Char) : Bool :=
  isAsciiBlank c || c.toNat == 0x85 || c.toNat == 0xA0 || c.toNat == 0x1680 ||
    (0x2000 ≤ c.toNat && c.toNat ≤ 0x200A) || c.toNat == 0x2028 || c.toNat == 0x2029 ||
    c.toNat == 0x202F || c.toNat == 0x205F || c.toNat == 0x3000

/-- The characters at which a text is cut into lines: those from line feed to carriage
return, three of the information separators, next line, and the line and paragraph
separators. -/
def isLineBreak (c : Char) : Bool :=
  (0xA ≤ c.toNat && c.toNat ≤ 0xD) || (0x1C ≤ c.toNat && c.toNat ≤ 0x1E) ||
    c.toNat == 0x85 || c.toNat == 0x2028 || c.toNat == 0x2029

/-- White_Space and the information separators: what may stand around a number. -/
def isBlank (c : Char) : Bool :=
  isWhiteSpace c || (0x1C ≤ c.toNat && c.toNat ≤ 0x1F)

/-- The text without the characters of a set at its end. -/
def trimRight (p : Char → Bool) (cs : List Char) : List Char :=
  (cs.reverse.dropWhile p).reverse

/-- The text without the characters of a set at either end. -/
def trim (p : Char → Bool) (cs : List Char) : List Char :=
  trimRight p (cs.dropWhile p)

/-- Trimming at the end stops behind a character outside the set. -/
theorem trimRight_cons {p : Char → Bool} {c : Char} (hc : p c = false) (rest : List Char) :
    trimRight p (c :: rest) = c :: trimRight p rest := by
  rw [trimRight, trimRight, List.reverse_cons, List.dropWhile_append]
  split
  · rename_i hnil
    simp_all
  · simp

@[simp] theorem trim_nil (p : Char → Bool) : trim p [] = [] := rfl

/-- A text whose ends are both outside the set stays as it is. -/
theorem trim_eq_self {p : Char → Bool} {cs : List Char} (hfirst : ∀ c ∈ cs.head?, ¬ p c)
    (hlast : ∀ c ∈ cs.getLast?, ¬ p c) : trim p cs = cs := by
  have hdrop : ∀ l : List Char, (∀ c ∈ l.head?, ¬ p c) → l.dropWhile p = l := by
    intro l hl
    cases l with
    | nil => rfl
    | cons c rest => simp [hl c (by simp)]
  rw [trim, trimRight, hdrop cs hfirst, hdrop cs.reverse (by simpa using hlast),
    List.reverse_reverse]

end NumericWire.Text
