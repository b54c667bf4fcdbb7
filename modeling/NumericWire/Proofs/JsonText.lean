import NumericWire.Json.Printer
import NumericWire.Json.Reader
/-!
# NumericWire.Proofs.JsonText

**Printed JSON reads back.** A value without floating-point numbers that keeps within the limits
of the reader (`Json.Fits`) is read from its text as it was, whatever text follows
(`readValue_toText`). So no text stands for two such values, and names, items and fields keep
their order.

The induction is on the value, in step with the printer. A number ends only where its digits end,
so what follows a value must not go on with digits, a point or an exponent (`EndsNumber`); behind
an item stands a comma or a bracket. The reader spends less fuel on a text than the text has
characters, and the length of the text carries the bound on the fuel through the induction.
-/

namespace NumericWire

namespace Json

mutual

/-- Whether a value keeps within limits: so many digits in an integer, and so many lists and
objects inside each other, where an empty one does not count. Floating-point numbers are left
out, since their texts are rounded. -/
def Fits (whole depth : Nat) : Json → Prop
  | null => True
  | bool _ => True
  | int n => Numeral.length n.natAbs ≤ whole
  | float _ => False
  | string _ => True
  | list items => (items = [] ∨ 0 < depth) ∧ ItemsFit whole (depth - 1) items
  | object fields => (fields = [] ∨ 0 < depth) ∧ FieldsFit whole (depth - 1) fields

/-- `Fits` of every item. -/
def ItemsFit (whole depth : Nat) : List Json → Prop
  | [] => True
  | v :: rest => v.Fits whole depth ∧ ItemsFit whole depth rest

/-- `Fits` of the value of every field. -/
def FieldsFit (whole depth : Nat) : List (String × Json) → Prop
  | [] => True
  | (_, v) :: rest => v.Fits whole depth ∧ FieldsFit whole depth rest

end

/-! ### Strings -/

/-- Four digits of a unit are read as that unit. -/
theorem unit?_hexFixed {n : Nat} (h : n < 65536) :
    unit? (Text.hexDigit (n / 16 / 16 / 16)) (Text.hexDigit (n / 16 / 16)) (Text.hexDigit (n / 16))
      (Text.hexDigit n) = some n := by
  simp only [unit?, Text.Hex.digitValue?_hexDigit, Option.some.injEq]
  omega

theorem escapedUnit_eq (n : Nat) :
    escapedUnit n = ['\\', 'u', Text.hexDigit (n / 16 / 16 / 16), Text.hexDigit (n / 16 / 16),
      Text.hexDigit (n / 16), Text.hexDigit n] := rfl

/-- What an escaped unit does: it completes a pair, begins one or stands for a character. -/
theorem readString_escapedUnit (done rest : List Char) (high? : Option Nat) {n : Nat}
    (hn : n < 65536) :
    readString done high? (escapedUnit n ++ rest) =
      match high? with
      | some high =>
        if isLowSurrogate n then readString (ofSurrogates high n :: done) none rest else none
      | none =>
        if isHighSurrogate n then readString done (some n) rest
        else if isLowSurrogate n then none
        else readString (Char.ofNat n :: done) none rest := by
  rw [escapedUnit_eq]
  simp only [List.cons_append, List.nil_append]
  rw [readString.eq_def]
  simp only [if_pos, unit?_hexFixed hn]
  cases high? with
  | none => rfl
  | some high => rfl

theorem lt_of_isHighSurrogate {n : Nat} (h : isHighSurrogate n = true) : n < 65536 := by
  simp only [isHighSurrogate, Bool.and_eq_true, decide_eq_true_eq] at h
  omega

theorem lt_of_isLowSurrogate {n : Nat} (h : isLowSurrogate n = true) : n < 65536 := by
  simp only [isLowSurrogate, Bool.and_eq_true, decide_eq_true_eq] at h
  omega

/-- A character is no surrogate. -/
theorem not_surrogate (c : Char) :
    isHighSurrogate c.toNat = false ∧ isLowSurrogate c.toNat = false := by
  have hvalid := c.valid
  simp only [UInt32.isValidChar, Nat.isValidChar] at hvalid
  have hnat : c.val.toNat = c.toNat := rfl
  simp only [isHighSurrogate, isLowSurrogate, Bool.and_eq_false_iff, decide_eq_false_iff_not]
  omega

/-- The two surrogates of a character beyond the units. -/
theorem ofSurrogates_toNat {c : Char} (h : 0x10000 ≤ c.toNat) :
    isHighSurrogate (0xD800 + (c.toNat - 0x10000) / 0x400) = true ∧
      isLowSurrogate (0xDC00 + (c.toNat - 0x10000) % 0x400) = true ∧
      ofSurrogates (0xD800 + (c.toNat - 0x10000) / 0x400)
        (0xDC00 + (c.toNat - 0x10000) % 0x400) = c := by
  have hlt : c.toNat < 0x110000 := by
    have hvalid := c.valid
    simp only [UInt32.isValidChar, Nat.isValidChar] at hvalid
    have hnat : c.val.toNat = c.toNat := rfl
    omega
  refine ⟨?_, ?_, ?_⟩
  · simp only [isHighSurrogate, Bool.and_eq_true, decide_eq_true_eq]
    omega
  · simp only [isLowSurrogate, Bool.and_eq_true, decide_eq_true_eq]
    omega
  · have hsame : 0x10000 + (0xD800 + (c.toNat - 0x10000) / 0x400 - 0xD800) * 0x400 +
        (0xDC00 + (c.toNat - 0x10000) % 0x400 - 0xDC00) = c.toNat := by omega
    rw [ofSurrogates, hsame, Char.ofNat_toNat]

theorem readString_quote (done rest : List Char) :
    readString done none ('"' :: rest) = some (String.ofList done.reverse, rest) := by
  rw [readString.eq_def]
  simp

theorem readString_plain (done rest : List Char) {c : Char} (hquote : c ≠ '"')
    (hbackslash : c ≠ '\\') (hcontrol : 0x20 ≤ c.toNat) :
    readString done none (c :: rest) = readString (c :: done) none rest := by
  have hcontrol : ¬ c.toNat < 0x20 := Nat.not_lt.2 hcontrol
  rw [readString.eq_def]
  simp [hquote, hbackslash, hcontrol]

theorem readString_shortEscape (done rest : List Char) {c e : Char} (hunit : e ≠ 'u')
    (h : shortEscape? e = some c) :
    readString done none ('\\' :: e :: rest) = readString (c :: done) none rest := by
  rw [readString.eq_def]
  simp [hunit, h]

/-- **A written character is read as that character**, by a short escape, as it stands, or in
one or two units. -/
theorem readString_stringChar (done rest : List Char) (c : Char) :
    readString done none (stringChar c ++ rest) = readString (c :: done) none rest := by
  unfold stringChar
  -- Seven characters have a short escape.
  iterate 7
    split
    · subst c
      exact readString_shortEscape done rest (by decide) rfl
  split
  · rename_i hquote hbackslash _ _ _ _ _ hplain
    exact readString_plain done rest hquote hbackslash hplain.1
  split
  · rename_i hunit
    rw [readString_escapedUnit _ _ _ hunit]
    simp only [not_surrogate c, Char.ofNat_toNat]
    rfl
  · rename_i hunit
    obtain ⟨hhigh, hlow, hsame⟩ := ofSurrogates_toNat (Nat.le_of_not_lt hunit)
    rw [List.append_assoc, readString_escapedUnit _ _ _ (lt_of_isHighSurrogate hhigh)]
    simp only [hhigh, if_true]
    rw [readString_escapedUnit _ _ _ (lt_of_isLowSurrogate hlow)]
    simp only [hlow, hsame, if_true]

theorem readString_flatMap (done cs rest : List Char) :
    readString done none (cs.flatMap stringChar ++ '"' :: rest) =
      some (String.ofList (done.reverse ++ cs), rest) := by
  induction cs generalizing done with
  | nil => simp [readString_quote]
  | cons c cs ih =>
      rw [List.flatMap_cons, List.append_assoc, readString_stringChar, ih]
      simp

/-- A string is read back from behind its first quote. -/
theorem readString_stringText (s : String) (rest : List Char) :
    ∃ cs, (stringText s).toList ++ rest = '"' :: cs ∧ readString [] none cs = some (s, rest) := by
  refine ⟨s.toList.flatMap stringChar ++ '"' :: rest, ?_, ?_⟩
  · simp [stringText]
  · rw [readString_flatMap]
    simp

/-! ### Numbers -/

/-- Whether what follows a number cannot be taken for more of it. -/
def EndsNumber (rest : List Char) : Prop :=
  ∀ c ∈ rest.head?, c.isDigit = false ∧ c ≠ '.' ∧ c ≠ 'e' ∧ c ≠ 'E'

theorem endsNumber_nil : EndsNumber [] := by
  intro c hc
  simp at hc

theorem endsNumber_cons {c : Char} {rest : List Char}
    (h : c.isDigit = false ∧ c ≠ '.' ∧ c ≠ 'e' ∧ c ≠ 'E') : EndsNumber (c :: rest) := by
  intro d hd
  obtain rfl := Option.some.inj hd
  exact h

theorem readFraction_of_endsNumber {rest : List Char} (h : EndsNumber rest) :
    readFraction rest = some (none, rest) := by
  unfold readFraction
  split
  · exact absurd rfl (h '.' rfl).2.1
  · rfl

theorem readExponent_of_endsNumber {rest : List Char} (h : EndsNumber rest) :
    readExponent rest = some (none, rest) := by
  cases rest with
  | nil => rfl
  | cons c rest =>
      obtain ⟨-, -, hlower, hupper⟩ := h c rfl
      simp [readExponent, hlower, hupper]

/-- The digits of a numeral are taken as the whole part of a number. -/
theorem takeWhole_ofNat {limit n : Nat} {rest : List Char} (hn : Numeral.length n ≤ limit)
    (hrest : EndsNumber rest) :
    takeWhole limit (Numeral.ofNat n ++ rest) = .ok (Numeral.ofNat n, rest) := by
  have htake : Decimal.Literal.takeDigits (Numeral.ofNat n ++ rest) = (Numeral.ofNat n, rest) :=
    Decimal.Literal.takeDigits_append (fun _ => Numeral.isDigit_of_mem_ofNat)
      fun c hc => (hrest c hc).1
  have hzero : ¬ ((Numeral.ofNat n).head? = some '0' ∧ 1 < (Numeral.ofNat n).length) := by
    intro ⟨hhead, hlength⟩
    rw [Numeral.eq_zero_of_head?_ofNat hhead] at hlength
    exact absurd hlength (by decide)
  have hlong : ¬ limit < (Numeral.ofNat n).length := by
    rw [Numeral.length_ofNat]
    omega
  rw [takeWhole, htake]
  simp [Numeral.ofNat_ne_nil, hzero, hlong]

theorem readMagnitude_ofNat {limit n : Nat} {rest : List Char} (sign : Sign)
    (hn : Numeral.length n ≤ limit) (hrest : EndsNumber rest) :
    readMagnitude limit sign (Numeral.ofNat n ++ rest) = some (int (sign.apply n), rest) := by
  rw [readMagnitude, takeWhole_ofNat hn hrest]
  simp [readFraction_of_endsNumber hrest, readExponent_of_endsNumber hrest]

/-- The text of an integer: a minus sign if it is negative, and the numeral of its magnitude. -/
theorem toList_toString (n : Int) :
    (toString n).toList = (Sign.ofInt n).mark.toList ++ Numeral.ofNat n.natAbs := by
  rw [Int.toString_eq_repr, Int.repr_eq_if, Sign.ofInt, Numeral.ofNat_eq_toDigits]
  by_cases hn : n < 0
  · have hnonneg : ¬ 0 ≤ n := by omega
    have habs : (-n).toNat = n.natAbs := by omega
    rw [if_neg hnonneg, if_pos hn, habs, Nat.repr_eq_ofList_toDigits]
    simp [Sign.mark]
  · have hnonneg : 0 ≤ n := by omega
    have habs : n.toNat = n.natAbs := by omega
    rw [if_pos hnonneg, if_neg hn, habs, Nat.repr_eq_ofList_toDigits]
    simp [Sign.mark]

/-- Whether a text starts as the text of an integer does, and of no other value. -/
def StartsNumber (cs : List Char) : Prop :=
  ∃ c ∈ cs.head?, c.isDigit = true ∨ c = '-'

theorem readNumber_of_isDigit {limit : Nat} {c : Char} {cs : List Char} (hc : c.isDigit = true) :
    readNumber limit (c :: cs) = readMagnitude limit .positive (c :: cs) := by
  have hminus : c ≠ '-' := by
    rintro rfl
    exact absurd hc (by decide)
  have htake : takeMinus (c :: cs) = (.positive, c :: cs) := by simp [takeMinus, hminus]
  rw [readNumber.eq_def]
  split
  · rename_i hname
    rw [(List.cons.inj hname).1] at hc
    exact absurd hc (by decide)
  · rename_i hname
    rw [(List.cons.inj hname).1] at hc
    exact absurd hc (by decide)
  · rename_i hname
    exact absurd (List.cons.inj hname).1 hminus
  · rw [htake]

theorem readNumber_of_minus {limit : Nat} {c : Char} {cs : List Char} (hc : c.isDigit = true) :
    readNumber limit ('-' :: c :: cs) = readMagnitude limit .negative (c :: cs) := by
  have hinfinity : c ≠ 'I' := by
    rintro rfl
    exact absurd hc (by decide)
  simp [readNumber, takeMinus, hinfinity]

/-- **A written integer is read as that integer.** -/
theorem readNumber_toString {limit : Nat} {n : Int} {rest : List Char}
    (hn : Numeral.length n.natAbs ≤ limit) (hrest : EndsNumber rest) :
    readNumber limit ((toString n).toList ++ rest) = some (int n, rest) := by
  obtain ⟨c, cs, hcs⟩ := List.exists_cons_of_ne_nil (Numeral.ofNat_ne_nil n.natAbs)
  have hc : c.isDigit = true := Numeral.isDigit_of_mem_ofNat (n := n.natAbs) (by simp [hcs])
  have hread := readMagnitude_ofNat (Sign.ofInt n) hn hrest
  rw [Sign.apply_ofInt_natAbs, hcs, List.cons_append] at hread
  rw [toList_toString, hcs]
  cases hsign : Sign.ofInt n with
  | positive =>
      rw [hsign] at hread
      exact (readNumber_of_isDigit hc).trans hread
  | negative =>
      rw [hsign] at hread
      exact (readNumber_of_minus hc).trans hread

theorem startsNumber_toString (n : Int) (rest : List Char) :
    StartsNumber ((toString n).toList ++ rest) := by
  obtain ⟨c, cs, hcs⟩ := List.exists_cons_of_ne_nil (Numeral.ofNat_ne_nil n.natAbs)
  have hc : c.isDigit = true := Numeral.isDigit_of_mem_ofNat (n := n.natAbs) (by simp [hcs])
  rw [toList_toString, hcs]
  cases Sign.ofInt n with
  | positive => exact ⟨c, rfl, Or.inl hc⟩
  | negative => exact ⟨'-', rfl, Or.inr rfl⟩

theorem readValue_of_startsNumber {limit fuel depth : Nat} {cs : List Char}
    (h : StartsNumber cs) : readValue limit (fuel + 1) depth cs = readNumber limit cs := by
  obtain ⟨c, hc, hstart⟩ := h
  rw [readValue.eq_def]
  simp only
  split
  case h_7 => rfl
  all_goals
    obtain rfl := Option.some.inj hc
    exact absurd hstart (by decide)

/-! ### Items and fields -/

/-- Whether a text starts with a character that is neither space nor the end of a list. -/
def StartsValue (cs : List Char) : Prop :=
  ∃ c ∈ cs.head?, isSpace c = false ∧ c ≠ ']'

theorem StartsNumber.startsValue {cs : List Char} (h : StartsNumber cs) : StartsValue cs := by
  obtain ⟨c, hc, hstart⟩ := h
  refine ⟨c, hc, ?_, ?_⟩
  · cases hspace : isSpace c with
    | false => rfl
    | true =>
        simp only [isSpace, Bool.or_eq_true, decide_eq_true_eq] at hspace
        rcases hspace with ((rfl | rfl) | rfl) | rfl <;> exact absurd hstart (by decide)
  · rintro rfl
    exact absurd hstart (by decide)

theorem StartsValue.append {cs : List Char} (h : StartsValue cs) (rest : List Char) :
    StartsValue (cs ++ rest) := by
  obtain ⟨c, hc, hstart⟩ := h
  cases cs with
  | nil => simp at hc
  | cons d cs => exact ⟨c, hc, hstart⟩

theorem StartsValue.skipSpace_eq {cs : List Char} (h : StartsValue cs) : skipSpace cs = cs := by
  obtain ⟨c, hc, hspace, -⟩ := h
  cases cs with
  | nil => rfl
  | cons d cs =>
      obtain rfl := Option.some.inj hc
      simp [skipSpace, hspace]

/-- The first character of a text that stands for a value. -/
theorem startsValue_toText {whole depth : Nat} {v : Json} (h : v.Fits whole depth) :
    StartsValue v.toText.toList := by
  cases v with
  | null => exact ⟨'n', rfl, by decide⟩
  | bool b => cases b <;> exact ⟨_, rfl, by decide⟩
  | int n =>
      have hstart := startsNumber_toString n []
      rw [List.append_nil] at hstart
      exact hstart.startsValue
  | float x => exact h.elim
  | string s => exact ⟨'"', by simp [toText, stringText], by decide⟩
  | list items => exact ⟨'[', by simp [toText], by decide⟩
  | object fields => exact ⟨'\x7b', by simp [toText], by decide⟩

/-- The texts of values, with a comma and a space between them. -/
def joined (texts : List String) : List Char := (", ".intercalate texts).toList

theorem joined_singleton (s : String) : joined [s] = s.toList := by
  simp [joined]

theorem joined_cons_cons (s t : String) (texts : List String) :
    joined (s :: t :: texts) = s.toList ++ ',' :: ' ' :: joined (t :: texts) := by
  simp [joined, String.intercalate_cons_cons]

/-- The first character is that of the first text. -/
theorem head?_joined {s : String} {c : Char} (h : s.toList.head? = some c) (texts : List String) :
    (joined (s :: texts)).head? = some c := by
  cases texts with
  | nil =>
      rw [joined_singleton]
      exact h
  | cons t texts =>
      rw [joined_cons_cons, List.head?_append, h]
      rfl

theorem toList_toText_list (items : List Json) :
    (list items).toText.toList = '[' :: (joined (itemTexts items) ++ [']']) := by
  simp [toText, joined]

theorem toList_toText_object (fields : List (String × Json)) :
    (object fields).toText.toList = '\x7b' :: (joined (fieldTexts fields) ++ ['\x7d']) := by
  simp [toText, joined]

theorem startsValue_itemTexts {whole depth : Nat} {v : Json} (h : v.Fits whole depth)
    (more : List Json) : StartsValue (joined (itemTexts (v :: more))) := by
  obtain ⟨c, hc, hstart⟩ := startsValue_toText h
  exact ⟨c, head?_joined hc (itemTexts more), hstart⟩

/-- The text of a field. -/
def fieldText (name : String) (v : Json) : String := stringText name ++ ": " ++ v.toText

/-- A field starts with the quote of its name. -/
theorem head?_fieldTexts (name : String) (v : Json) (more : List (String × Json)) :
    (joined (fieldTexts ((name, v) :: more))).head? = some '"' :=
  head?_joined (by simp [stringText]) (fieldTexts more)

theorem length_toText_le_fieldText (name : String) (v : Json) :
    v.toText.toList.length ≤ (fieldText name v).toList.length := by
  rw [fieldText, String.toList_append, List.length_append]
  omega

/-! ### The steps of the reader -/

section Steps

variable {limit fuel depth : Nat} {v : Json} {text rest : List Char}

theorem skipSpace_space (h : StartsValue rest) : skipSpace (' ' :: rest) = rest := by
  have hspace : isSpace ' ' = true := by decide
  rw [skipSpace, List.dropWhile_cons_of_pos hspace]
  exact h.skipSpace_eq

theorem readValue_list (h : StartsValue rest) :
    readValue limit (fuel + 1) (depth + 1) ('[' :: rest) = readItems limit fuel depth [] rest := by
  have hskip := h.skipSpace_eq
  obtain ⟨c, hc, -, hbracket⟩ := h
  rw [readValue.eq_def]
  simp only [hskip]
  split
  · exact absurd (Option.some.inj hc).symm hbracket
  · rename_i hdepth
    simp at hdepth
  · rename_i hdepth
    rw [Nat.succ.inj hdepth]

theorem readValue_object (h : rest.head? = some '"') :
    readValue limit (fuel + 1) (depth + 1) ('\x7b' :: rest) =
      readFields limit fuel depth [] rest := by
  have hstart : StartsValue rest := ⟨'"', h, by decide⟩
  rw [readValue.eq_def]
  simp only [hstart.skipSpace_eq]
  split
  · exact absurd (Option.some.inj h) (by decide)
  · rename_i hdepth
    simp at hdepth
  · rename_i hdepth
    rw [Nat.succ.inj hdepth]

theorem readItems_comma {done : List Json} (h : StartsValue rest)
    (hv : readValue limit fuel depth (text ++ ',' :: ' ' :: rest) = some (v, ',' :: ' ' :: rest)) :
    readItems limit (fuel + 1) depth done (text ++ ',' :: ' ' :: rest) =
      readItems limit fuel depth (v :: done) rest := by
  have hcomma : skipSpace (',' :: ' ' :: rest) = ',' :: ' ' :: rest := rfl
  rw [readItems, hv]
  simp only [hcomma, skipSpace_space h]

theorem readItems_bracket {done : List Json}
    (hv : readValue limit fuel depth (text ++ ']' :: rest) = some (v, ']' :: rest)) :
    readItems limit (fuel + 1) depth done (text ++ ']' :: rest) =
      some (list (v :: done).reverse, rest) := by
  have hbracket : skipSpace (']' :: rest) = ']' :: rest := rfl
  rw [readItems, hv]
  simp only [hbracket]

/-- A field is read up to the text behind its value. -/
theorem readFields_fieldText {done : List (String × Json)} {name : String}
    (hstart : StartsValue v.toText.toList)
    (hv : readValue limit fuel depth (v.toText.toList ++ rest) = some (v, rest)) :
    readFields limit (fuel + 1) depth done ((fieldText name v).toList ++ rest) =
      match skipSpace rest with
      | ',' :: rest => readFields limit fuel depth ((name, v) :: done) (skipSpace rest)
      | '\x7d' :: rest => some (object ((name, v) :: done).reverse, rest)
      | _ => none := by
  obtain ⟨cs, hcs, hname⟩ :=
    readString_stringText name (':' :: ' ' :: (v.toText.toList ++ rest))
  have htext : (fieldText name v).toList ++ rest = '"' :: cs := by
    rw [← hcs]
    simp [fieldText]
  have hcolon : skipSpace (':' :: ' ' :: (v.toText.toList ++ rest)) =
      ':' :: ' ' :: (v.toText.toList ++ rest) := rfl
  have hread := readFields.eq_def limit (fuel + 1) depth done ('"' :: cs)
  simp only [hname, hcolon, skipSpace_space (hstart.append rest), hv] at hread
  rw [htext]
  exact hread

theorem readFields_comma {done : List (String × Json)} {name : String}
    (hstart : StartsValue v.toText.toList) (h : StartsValue rest)
    (hv : readValue limit fuel depth (v.toText.toList ++ ',' :: ' ' :: rest) =
      some (v, ',' :: ' ' :: rest)) :
    readFields limit (fuel + 1) depth done ((fieldText name v).toList ++ ',' :: ' ' :: rest) =
      readFields limit fuel depth ((name, v) :: done) rest := by
  have hcomma : skipSpace (',' :: ' ' :: rest) = ',' :: ' ' :: rest := rfl
  rw [readFields_fieldText hstart hv, hcomma]
  simp only [skipSpace_space h]

theorem readFields_brace {done : List (String × Json)} {name : String}
    (hstart : StartsValue v.toText.toList)
    (hv : readValue limit fuel depth (v.toText.toList ++ '\x7d' :: rest) =
      some (v, '\x7d' :: rest)) :
    readFields limit (fuel + 1) depth done ((fieldText name v).toList ++ '\x7d' :: rest) =
      some (object ((name, v) :: done).reverse, rest) := by
  have hbrace : skipSpace ('\x7d' :: rest) = '\x7d' :: rest := rfl
  rw [readFields_fieldText hstart hv, hbrace]
  rfl

end Steps

/-! ### Values -/

theorem endsNumber_comma (rest : List Char) : EndsNumber (',' :: rest) :=
  endsNumber_cons (by decide)

theorem endsNumber_bracket (rest : List Char) : EndsNumber (']' :: rest) :=
  endsNumber_cons (by decide)

theorem endsNumber_brace (rest : List Char) : EndsNumber ('\x7d' :: rest) :=
  endsNumber_cons (by decide)

/-- A text needs fuel, since it is not empty. -/
theorem StartsValue.exists_fuel {cs : List Char} {fuel : Nat} (h : StartsValue cs)
    (hfuel : cs.length ≤ fuel) : ∃ k, fuel = k + 1 := by
  obtain ⟨c, hc, -⟩ := h
  cases cs with
  | nil => simp at hc
  | cons d cs =>
      rw [List.length_cons] at hfuel
      exact ⟨fuel - 1, by omega⟩

mutual

/-- **A written value is read as that value.** -/
theorem readValue_toText {whole : Nat} : ∀ (v : Json) (fuel depth : Nat) (rest : List Char),
    v.Fits whole depth → v.toText.toList.length ≤ fuel → EndsNumber rest →
      readValue whole fuel depth (v.toText.toList ++ rest) = some (v, rest)
  | null => by
      intro fuel depth rest hfits hfuel _
      obtain ⟨fuel, rfl⟩ := (startsValue_toText hfits).exists_fuel hfuel
      rfl
  | bool true => by
      intro fuel depth rest hfits hfuel _
      obtain ⟨fuel, rfl⟩ := (startsValue_toText hfits).exists_fuel hfuel
      rfl
  | bool false => by
      intro fuel depth rest hfits hfuel _
      obtain ⟨fuel, rfl⟩ := (startsValue_toText hfits).exists_fuel hfuel
      rfl
  | int n => by
      intro fuel depth rest hfits hfuel hrest
      obtain ⟨fuel, rfl⟩ := (startsValue_toText hfits).exists_fuel hfuel
      show readValue whole (fuel + 1) depth ((toString n).toList ++ rest) = some (int n, rest)
      rw [readValue_of_startsNumber (startsNumber_toString n rest)]
      exact readNumber_toString hfits hrest
  | float x => by
      -- A floating-point number never fits.
      intro fuel depth rest hfits _ _
      exact hfits.elim
  | string s => by
      intro fuel depth rest hfits hfuel _
      obtain ⟨fuel, rfl⟩ := (startsValue_toText hfits).exists_fuel hfuel
      obtain ⟨cs, hcs, hread⟩ := readString_stringText s rest
      show readValue whole (fuel + 1) depth ((stringText s).toList ++ rest) = some (string s, rest)
      rw [hcs, readValue, hread]
      rfl
  | list [] => by
      intro fuel depth rest hfits hfuel _
      obtain ⟨fuel, rfl⟩ := (startsValue_toText hfits).exists_fuel hfuel
      rfl
  | list (v :: more) => by
      intro fuel depth rest hfits hfuel _
      obtain ⟨hdepth, hv, hmore⟩ := hfits
      obtain ⟨depth, rfl⟩ := Nat.exists_eq_add_one.2 (hdepth.resolve_left (by simp))
      rw [toList_toText_list, List.length_cons, List.length_append, List.length_singleton] at hfuel
      -- The step costs one unit of fuel, and the bracket is one character.
      obtain ⟨fuel, rfl⟩ : ∃ k, fuel = k + 1 := Nat.exists_eq_add_one.2 (by omega)
      have hstart := startsValue_itemTexts hv more
      rw [toList_toText_list, List.cons_append, List.append_assoc,
        readValue_list (hstart.append _)]
      exact readItems_itemTexts (v :: more) fuel depth [] rest (by simp) ⟨hv, hmore⟩ (by omega)
  | object [] => by
      intro fuel depth rest hfits hfuel _
      obtain ⟨fuel, rfl⟩ := (startsValue_toText hfits).exists_fuel hfuel
      rfl
  | object ((name, v) :: more) => by
      intro fuel depth rest hfits hfuel _
      obtain ⟨hdepth, hv, hmore⟩ := hfits
      obtain ⟨depth, rfl⟩ := Nat.exists_eq_add_one.2 (hdepth.resolve_left (by simp))
      rw [toList_toText_object, List.length_cons, List.length_append, List.length_singleton]
        at hfuel
      obtain ⟨fuel, rfl⟩ : ∃ k, fuel = k + 1 := Nat.exists_eq_add_one.2 (by omega)
      have hhead : (joined (fieldTexts ((name, v) :: more)) ++ '\x7d' :: rest).head? =
          some '"' := by
        rw [List.head?_append, head?_fieldTexts]
        rfl
      rw [toList_toText_object, List.cons_append, List.append_assoc, List.singleton_append,
        readValue_object hhead]
      exact readFields_fieldTexts ((name, v) :: more) fuel depth [] rest (by simp) ⟨hv, hmore⟩
        (by omega)

/-- Written items are read up to the end of their list. -/
theorem readItems_itemTexts {whole : Nat} : ∀ (items : List Json) (fuel depth : Nat)
    (done : List Json) (rest : List Char), items ≠ [] → ItemsFit whole depth items →
      (joined (itemTexts items)).length < fuel →
        readItems whole fuel depth done (joined (itemTexts items) ++ ']' :: rest) =
          some (list (done.reverse ++ items), rest)
  | [] => by
      intro fuel depth done rest hne _ _
      exact absurd rfl hne
  | [v] => by
      intro fuel depth done rest _ hfits hfuel
      have hv := hfits.1
      obtain ⟨fuel, rfl⟩ := Nat.exists_eq_add_one.2 (Nat.zero_lt_of_lt hfuel)
      have htext : joined (itemTexts [v]) = v.toText.toList := joined_singleton _
      rw [htext] at hfuel ⊢
      have hread := readValue_toText v _ _ _ hv (Nat.le_of_lt_succ hfuel) (endsNumber_bracket rest)
      rw [readItems_bracket hread, List.reverse_cons]
  | v :: w :: more => by
      intro fuel depth done rest _ hfits hfuel
      obtain ⟨hv, hw, hmore⟩ := hfits
      obtain ⟨fuel, rfl⟩ := Nat.exists_eq_add_one.2 (Nat.zero_lt_of_lt hfuel)
      have htext : joined (itemTexts (v :: w :: more)) =
          v.toText.toList ++ ',' :: ' ' :: joined (itemTexts (w :: more)) := joined_cons_cons _ _ _
      rw [htext, List.length_append, List.length_cons, List.length_cons] at hfuel
      -- A number ends at the comma, and the space behind it does not belong to the next item.
      have hstart := startsValue_itemTexts hw more
      have hread := readValue_toText v _ _ _ hv (by omega : v.toText.toList.length ≤ fuel)
        (endsNumber_comma (' ' :: (joined (itemTexts (w :: more)) ++ ']' :: rest)))
      rw [htext, List.append_assoc, List.cons_append, List.cons_append,
        readItems_comma (hstart.append _) hread,
        readItems_itemTexts (w :: more) _ _ _ _ (by simp) ⟨hw, hmore⟩ (by omega),
        List.reverse_cons, List.append_assoc, List.singleton_append]

/-- Written fields are read up to the end of their object. -/
theorem readFields_fieldTexts {whole : Nat} : ∀ (fields : List (String × Json))
    (fuel depth : Nat) (done : List (String × Json)) (rest : List Char), fields ≠ [] →
      FieldsFit whole depth fields → (joined (fieldTexts fields)).length < fuel →
        readFields whole fuel depth done (joined (fieldTexts fields) ++ '\x7d' :: rest) =
          some (object (done.reverse ++ fields), rest)
  | [] => by
      intro fuel depth done rest hne _ _
      exact absurd rfl hne
  | [(name, v)] => by
      intro fuel depth done rest _ hfits hfuel
      have hv := hfits.1
      obtain ⟨fuel, rfl⟩ := Nat.exists_eq_add_one.2 (Nat.zero_lt_of_lt hfuel)
      have htext : joined (fieldTexts [(name, v)]) = (fieldText name v).toList :=
        joined_singleton _
      have hlength := length_toText_le_fieldText name v
      rw [htext] at hfuel ⊢
      have hread := readValue_toText v _ _ _ hv (by omega : v.toText.toList.length ≤ fuel)
        (endsNumber_brace rest)
      rw [readFields_brace (startsValue_toText hv) hread, List.reverse_cons]
  | (name, v) :: (name', w) :: more => by
      intro fuel depth done rest _ hfits hfuel
      obtain ⟨hv, hw, hmore⟩ := hfits
      obtain ⟨fuel, rfl⟩ := Nat.exists_eq_add_one.2 (Nat.zero_lt_of_lt hfuel)
      have htext : joined (fieldTexts ((name, v) :: (name', w) :: more)) =
          (fieldText name v).toList ++ ',' :: ' ' :: joined (fieldTexts ((name', w) :: more)) :=
        joined_cons_cons _ _ _
      have hlength := length_toText_le_fieldText name v
      rw [htext, List.length_append, List.length_cons, List.length_cons] at hfuel
      have hstart : StartsValue (joined (fieldTexts ((name', w) :: more))) :=
        ⟨'"', head?_fieldTexts name' w more, by decide⟩
      have hread := readValue_toText v _ _ _ hv (by omega : v.toText.toList.length ≤ fuel)
        (endsNumber_comma (' ' :: (joined (fieldTexts ((name', w) :: more)) ++ '\x7d' :: rest)))
      rw [htext, List.append_assoc, List.cons_append, List.cons_append,
        readFields_comma (startsValue_toText hv) (hstart.append _) hread,
        readFields_fieldTexts ((name', w) :: more) _ _ _ _ (by simp) ⟨hw, hmore⟩ (by omega),
        List.reverse_cons, List.append_assoc, List.singleton_append]

end

/-- **Printed JSON reads back**, with nothing left over. -/
theorem ofText?_toText {limits : Limits} {v : Json} (h : v.Fits limits.whole limits.depth) :
    ofText? limits v.toText = some v := by
  have hread := readValue_toText v (v.toText.toList.length + 1) limits.depth [] h (by omega)
    endsNumber_nil
  rw [List.append_nil] at hread
  rw [ofText?, (startsValue_toText h).skipSpace_eq, hread]
  rfl

end Json

end NumericWire
