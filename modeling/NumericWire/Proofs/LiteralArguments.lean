import NumericWire.Proofs.CommandAnswers
/-!
# NumericWire.Proofs.LiteralArguments

**A literal as an argument.** Two grammars decide on it, that of the arguments and that of
literals, and they differ. A literal with a hyphen in front is taken for an unknown flag unless it
looks like a negative number, which leaves out exponents, underscores, names and a point at the
end (`ReadsAlone`). Behind a divider every literal is read.

The text of a decimal is such a literal, and it reads alone just if it has no hyphen or is
written plainly (`readsAlone_toText_iff`); so of what the way back prints, the negative decimals in
scientific notation are refused.
-/

namespace NumericWire

namespace Decimal

open Literal

variable {x : Decimal} {whole fraction tail : List Char} {c : Char} {e : ℤ}

/-! ### Texts that look like negative numbers -/

theorem isSome_digitValue?_of_isDigit (h : c.isDigit = true) :
    (Text.digitValue? c).isSome = true := by
  have hbounds := toNat_bounds_of_isDigit h
  simp [Text.digitValue?, Text.digitZeros, hbounds]

/-- The digits of any script end where those of ASCII do. -/
theorem IsSpelled.dropWhile_digits (h : IsSpelled x whole fraction tail e) :
    (spell whole fraction tail).dropWhile (fun c => (Text.digitValue? c).isSome) =
      behindPoint fraction ++ tail := by
  rw [spell, List.dropWhile_append_of_pos]
  · cases fraction with
    | nil =>
        rcases h.tail_start with rfl | hstart
        · rfl
        · obtain ⟨rest, rfl⟩ := List.head?_eq_some_iff.1 hstart
          rfl
    | cons d rest => rfl
  · intro c hc
    exact isSome_digitValue?_of_isDigit (h.digits c (List.mem_append_left _ hc))

/-- Where no exponent follows the digits, a text looks like a number. -/
theorem IsSpelled.looksNegative_iff (h : IsSpelled x whole fraction tail e) :
    Command.looksNegative ('-' :: spell whole fraction tail) = true ↔ tail = [] := by
  have hlast : ¬ (spell whole fraction tail).getLast? = some '\n' := by
    intro hlast
    have hchar := h.isTextChar (List.mem_of_getLast? hlast)
    simp [IsTextChar] at hchar
  have hne : spell whole fraction tail ≠ [] := by
    obtain ⟨c, rest, htext, -⟩ := h.exists_head
    simp [htext]
  simp only [Command.looksNegative, if_neg hlast, h.dropWhile_digits]
  cases fraction with
  | nil =>
      rcases h.tail_start with rfl | hstart
      · simp [behindPoint, hne]
      · obtain ⟨rest, rfl⟩ := List.head?_eq_some_iff.1 hstart
        simp [behindPoint]
  | cons d rest =>
      rcases h.tail_start with rfl | hstart
      · have hdigits : ∀ c ∈ d :: rest, (Text.digitValue? c).isSome = true := by
          intro c hc
          exact isSome_digitValue?_of_isDigit (h.digits c (List.mem_append_right _ hc))
        simpa [behindPoint] using hdigits
      · obtain ⟨rest', rfl⟩ := List.head?_eq_some_iff.1 hstart
        have hmark : Text.digitValue? 'E' = none := by decide
        simp [behindPoint, hmark]

/-- **Only a text without an exponent** looks like a negative number. -/
theorem looksNegative_magnitudeText_iff (x : Decimal) :
    Command.looksNegative ('-' :: x.magnitudeText) = true ↔ x.IsPlain := by
  by_cases hplain : x.IsPlain
  · obtain ⟨whole, fraction, htext, hspelled⟩ := isSpelled_of_isPlain hplain
    rw [htext, hspelled.looksNegative_iff]
    simp [hplain]
  · obtain ⟨whole, fraction, htext, hspelled⟩ := isSpelled_of_not_isPlain hplain
    rw [htext, hspelled.looksNegative_iff]
    simp [hplain, exponentMark]

theorem toList_toText (x : Decimal) :
    x.toText.toList = x.sign.mark.toList ++ x.magnitudeText := by
  rw [toText, String.toList_append, String.toList_ofList]

end Decimal

namespace Command

open Decimal Decimal.Literal

variable {edition : Edition} {text : String} {q : Quantity} {x : Decimal} {name : Name}
  {command : Command}

/-! ### Literals with a hyphen in front -/

/-- A hyphen in front, and a hyphen or a letter behind it, are kept in the plain form. -/
theorem plain?_hyphen_cons {c : Char} (hc : c = 'h' ∨ c = '-') (rest : List Char) :
    ∃ tail?, plain? ('-' :: c :: rest) = Option.map (fun tail => '-' :: c :: tail) tail? := by
  have hkept : Text.isBlank c = false ∧ c ≠ '_' ∧ plainChar? c = some c := by
    rcases hc with rfl | rfl
    · decide
    · decide
  have hhyphen : Text.isBlank '-' = false := by decide
  have htrim : Text.trim Text.isBlank ('-' :: c :: rest) =
      '-' :: c :: Text.trimRight Text.isBlank rest := by
    rw [Text.trim, List.dropWhile_cons_of_neg (by simp [hhyphen]), Text.trimRight_cons hhyphen,
      Text.trimRight_cons hkept.1]
  refine ⟨((Text.trimRight Text.isBlank rest).filter (· != '_')).mapM plainChar?, ?_⟩
  have hfilter : ('-' :: c :: Text.trimRight Text.isBlank rest).filter (· != '_') =
      '-' :: c :: (Text.trimRight Text.isBlank rest).filter (· != '_') := by
    simp [hkept.2.1]
  rw [plain?, htrim, hfilter, List.mapM_cons, List.mapM_cons, hkept.2.2]
  cases ((Text.trimRight Text.isBlank rest).filter (· != '_')).mapM plainChar? <;> rfl

/-- Neither is there a literal with two hyphens, nor one with that letter behind the hyphen. -/
theorem quantity?_hyphen_cons {c : Char} (hc : c = 'h' ∨ c = '-') (tail : List Char) :
    quantity? ('-' :: c :: tail) = none := by
  rcases hc with rfl | rfl
  · simp [quantity?, takeSign, named?, number?, takeDigits, takeFraction]
  · simp [quantity?, takeSign, named?, number?, takeDigits, takeFraction]

/-- **No literal means the help flag.** -/
theorem not_meansHelp_of_literal (hq : Quantity.ofLiteral? text = some q) :
    ¬ MeansHelp text.toList := by
  intro hhelp
  obtain ⟨c, rest, hcs, hc⟩ := hhelp.exists_cons
  obtain ⟨tail?, hplain⟩ := plain?_hyphen_cons hc rest
  rw [Quantity.ofLiteral?, hcs, hplain] at hq
  cases tail? with
  | none => simp at hq
  | some tail => simp [quantity?_hyphen_cons hc] at hq

theorem ne_hyphen_of_literal (hq : Quantity.ofLiteral? text = some q) : text.toList ≠ ['-'] := by
  intro hcs
  have hnone : (plain? ['-']).bind quantity? = none := rfl
  rw [Quantity.ofLiteral?, hcs, hnone] at hq
  simp at hq

/-- Whether a literal is taken for an argument without a divider in front. -/
def ReadsAlone (text : String) : Prop :=
  text.toList.head? ≠ some '-' ∨ looksNegative text.toList = true ∨ ' ' ∈ text.toList

instance (text : String) : Decidable (ReadsAlone text) := inferInstanceAs (Decidable (_ ∨ _))

theorem isPlain_of_readsAlone (hq : Quantity.ofLiteral? text = some q) (h : ReadsAlone text) :
    IsPlain text.toList := by
  rcases h with hhead | hlooks
  · exact Or.inl hhead
  · exact Or.inr (Or.inr ⟨not_meansHelp_of_literal hq, hlooks⟩)

/-- Any other literal is taken for an unknown flag. -/
theorem classify_of_not_readsAlone (hq : Quantity.ofLiteral? text = some q)
    (h : ¬ ReadsAlone text) : classify innerFlags text = .ok .unknownFlag := by
  simp only [ReadsAlone, not_or, not_not] at h
  obtain ⟨hhead, hlooks⟩ := h
  rw [classify_of_not_meansHelp (not_meansHelp_of_literal hq) hhead (ne_hyphen_of_literal hq)]
  exact if_neg (by simpa using hlooks)

/-! ### Answers to literals -/

/-- What is said of a command that is not handed what it wants. -/
def Line.missingText (name : Name) : String :=
  programName ++ " " ++ name.text ++ ": error: the following arguments are required: " ++
    name.slot.label

/-- The answer to such a command. -/
def Line.unread (name : Name) : Answer := ⟨2, "", [.complaint (missingText name)]⟩

/-- The complaint has one line. -/
theorem lastLine_missing (name : Name) :
    Line.lastLine (Line.speaker (some name) ++ ": error: " ++
      (Complaint.missing name.slot.label).message) = Line.missingText name := by
  cases name <;> decide +kernel

/-- What is taken for an unknown flag is left over, so the command misses its argument. -/
theorem ofArguments_of_unknownFlag (edition : Edition) (name : Name)
    (hflag : classify innerFlags text = .ok .unknownFlag) (hhelp : ¬ MeansHelp text.toList) :
    ofArguments edition [name.text, text] =
      .error (.refused (some name) (.missing name.slot.label)) := by
  have hne : text ≠ "--" := by
    rintro rfl
    exact hhelp (by decide)
  obtain ⟨token, htoken⟩ := classify_outerFlags_ok hhelp
  have houter : tokens outerFlags [name.text, text] =
      .ok [(name.text, .plain), (text, token)] :=
    (Marks.cons name.text_ne_divider (classify_text name) (.cons hne htoken .nil)).tokens_eq
  have hinner : tokens innerFlags [text] = .ok [(text, .unknownFlag)] :=
    (Marks.cons hne hflag .nil).tokens_eq
  have hrun : [(text, Token.unknownFlag)].foldlM (Round.step edition name) Round.start =
      .ok ⟨.waiting, [], [text]⟩ := rfl
  have hnone : ofArguments? name [] = none := by cases name <;> rfl
  have hsecond : readArguments edition name [text] =
      .error (.refused (some name) (.missing name.slot.label)) := by
    simp only [readArguments, hinner, hrun, hnone]
  simp only [ofArguments, houter, readFlags, readCommand, Name.ofText?_text, List.map, hsecond]

/-- Behind a divider a literal is read, whatever it starts with. -/
theorem answer_divider (edition : Edition) (environment : Environment)
    (hasks : Asks name [text] command) :
    Line.answer edition environment [name.text, "--", text] = Line.execute environment command :=
  answer_of_isLine_quiet environment ⟨name, [text], .word (.divider [text]), hasks⟩

theorem answer_alone (edition : Edition) (environment : Environment)
    (hq : Quantity.ofLiteral? text = some q) (h : ReadsAlone text)
    (hasks : Asks name [text] command) :
    Line.answer edition environment [name.text, text] = Line.execute environment command :=
  answer_of_isLine_quiet environment
    ⟨name, [text], .word (.plain (isPlain_of_readsAlone hq h) .nil), hasks⟩

theorem answer_unread (edition : Edition) (environment : Environment) (name : Name)
    (hq : Quantity.ofLiteral? text = some q) (h : ¬ ReadsAlone text) :
    Line.answer edition environment [name.text, text] = Line.unread name := by
  have hread := ofArguments_of_unknownFlag edition name (classify_of_not_readsAlone hq h)
    (not_meansHelp_of_literal hq)
  simp only [Line.answer, hread, lastLine_missing, Line.unread]

/-- A command that is executed is never answered like that. -/
theorem unread_ne_execute {environment : Environment} :
    Line.unread name ≠ Line.execute environment command := by
  intro hsame
  have hstatus := congrArg Answer.status hsame
  unfold Line.unread Line.execute at hstatus
  split at hstatus
  · simp at hstatus
  split at hstatus
  · simp at hstatus
  · simp at hstatus

/-! ### Texts of decimals as arguments -/

/-- **The text of a decimal reads alone** if it has no hyphen or is written plainly. -/
theorem readsAlone_toText_iff (x : Decimal) :
    ReadsAlone x.toText ↔ x.sign = .positive ∨ x.IsPlain := by
  obtain ⟨whole, fraction, tail, e, htext, hspelled⟩ := x.exists_isSpelled
  rw [ReadsAlone, toList_toText]
  cases hsign : x.sign with
  | positive =>
      obtain ⟨c, rest, hhead, hc⟩ := hspelled.exists_head
      have hne : c ≠ '-' := by
        rintro rfl
        simp at hc
      simp [Sign.mark, htext, hhead, hne]
  | negative =>
      have hspace : ' ' ∉ x.magnitudeText := by
        intro hmem
        rw [htext] at hmem
        have hchar := hspelled.isTextChar hmem
        simp [IsTextChar] at hchar
      have hlooks := looksNegative_magnitudeText_iff x
      simp [Sign.mark, hspace, hlooks]

/-- The decimal of digits that are not astronomically many is in reach of literals. -/
theorem inReach_toDecimal (n : Numeric.Number) (h : n.digits.length ≤ 10 ^ 17) :
    InReach n.toDecimal := by
  have hweight := n.weight_bounds
  simp only [Numeric.minWeight, Numeric.maxWeight] at hweight
  have hcount : n.toDecimal.digitCount ≤ 4 * n.digits.length + 1 := by
    have hlt := Base10000.ofDigits_lt n.digits_lt
    rw [digitCount, Numeral.length_le_iff (by omega)]
    refine hlt.trans_le ?_
    rw [show Base10000.base = 10 ^ 4 from rfl, ← pow_mul]
    exact Nat.pow_le_pow_right (by omega) (by omega)
  constructor
  · simp only [adjusted, Numeric.Number.toDecimal, Base10000.decimalsPerDigit, maxAdjusted] at *
    omega
  · simp only [Numeric.Number.toDecimal, Base10000.decimalsPerDigit, minExponent] at *
    omega

theorem toDecimal_eq_ok {w : Numeric} (h : w.toDecimal = .ok x) :
    ∃ n : Numeric.Number, w = .number n ∧ n.toDecimal = x := by
  cases w with
  | number n => exact ⟨n, rfl, Except.ok.inj h⟩
  | nan => simp [Numeric.toDecimal] at h

/-- What the way back prints is the text of a number's decimal. -/
theorem run_decode_eq_ok {settings : Settings} {wire : String}
    (h : run settings (.decode wire) = .ok text) :
    ∃ n : Numeric.Number, text = n.toDecimal.toText := by
  obtain ⟨w, -, h⟩ := bind_eq_ok h
  obtain ⟨x, hx, h⟩ := bind_eq_ok h
  obtain ⟨n, -, rfl⟩ := toDecimal_eq_ok hx
  exact ⟨n, (Except.ok.inj h).symm⟩

/-- From a frame, the number has no more digits than a frame can hold. -/
theorem run_unpack_eq_ok {settings : Settings} {texts : List String}
    (h : run settings (.unpack texts) = .ok text) :
    ∃ n : Numeric.Number, text = n.toDecimal.toText ∧ n.digits.length ≤ 32767 := by
  obtain ⟨bs, -, h⟩ := bind_eq_ok h
  obtain ⟨x, hx, h⟩ := bind_eq_ok h
  rw [Frame.toDecimal] at hx
  split at hx
  · rename_i w hw
    obtain ⟨n, rfl, rfl⟩ := toDecimal_eq_ok hx
    obtain ⟨count, hsize, hlength⟩ := Frame.hasSize_of_unpack hw
    have hcount := hlength n rfl
    have hlt := Frame.countField_lt hsize.header
    rw [hsize.count] at hlt
    exact ⟨n, (Except.ok.inj h).symm, by omega⟩
  · simp at hx

/-- What the way back prints is passed on to `encode` if it reads alone. -/
theorem answer_toText (edition : Edition) (environment : Environment) (hreach : InReach x) :
    Line.answer edition environment [Name.encode.text, x.toText] =
      if x.sign = .positive ∨ x.IsPlain then Line.execute environment (.encode (.finite x))
      else Line.unread .encode := by
  have hliteral := Quantity.ofLiteral?_toText hreach
  split
  · rename_i halone
    exact answer_alone edition environment hliteral ((readsAlone_toText_iff x).2 halone)
      (.encode hliteral)
  · rename_i halone
    exact answer_unread edition environment .encode hliteral (mt (readsAlone_toText_iff x).1 halone)

/-- A literal with a hyphen and an exponent is one, but is refused without a divider. -/
theorem answer_negative_exponent :
    Quantity.ofLiteral? "-1E5" = some (.finite ⟨.negative, 1, 5⟩) ∧
      ∀ edition,
        Line.answer edition ⟨none, none⟩ ["encode", "-1E5"] =
          ⟨2, "", [.complaint
            "pgnumeric encode: error: the following arguments are required: value"]⟩ ∧
        Line.answer edition ⟨none, none⟩ ["encode", "--", "-1E5"] =
          ⟨0, "\x7b\"sign\": \"negative\", \"weight\": 1, \"scale\": 0, \"digits\": [10, 0]\x7d\n",
            []⟩ := by
  have hq : Quantity.ofLiteral? "-1E5" = some (.finite ⟨.negative, 1, 5⟩) := rfl
  have hrun : run .default (.encode (.finite ⟨.negative, 1, 5⟩)) = .ok
      "\x7b\"sign\": \"negative\", \"weight\": 1, \"scale\": 0, \"digits\": [10, 0]\x7d" := by
    rw [Numeric.run_encode]
    rfl
  have hsettings : Settings.ofEnvironment ⟨none, none⟩ = .ok .default := rfl
  refine ⟨hq, fun edition => ⟨?_, ?_⟩⟩
  · have hunread : Line.unread .encode =
        ⟨2, "", [.complaint
          "pgnumeric encode: error: the following arguments are required: value"]⟩ := by
      decide +kernel
    exact (answer_unread edition ⟨none, none⟩ .encode hq (by decide)).trans hunread
  · refine (answer_divider edition ⟨none, none⟩ (.encode hq)).trans ?_
    rw [Line.execute, hsettings]
    simp only [hrun]
    decide +kernel

/-- **Literals as arguments**: behind a divider all of them are read, alone just those that read
alone; and so it is with the texts that the way back prints. -/
theorem answer_literal (hq : Quantity.ofLiteral? text = some q) :
    (∀ name command, (name = .encode ∧ command = encode q) ∨ (name = .pack ∧ command = pack q) →
      ∀ edition environment,
        Line.answer edition environment [name.text, "--", text] = Line.execute environment command ∧
        (ReadsAlone text →
          Line.answer edition environment [name.text, text] = Line.execute environment command) ∧
        (¬ ReadsAlone text → Line.answer edition environment [name.text, text] = Line.unread name) ∧
        (Line.answer edition environment [name.text, text] =
          Line.answer edition environment [name.text, "--", text] ↔ ReadsAlone text)) ∧
    ∀ settings command printed,
      (∃ wire, command = .decode wire) ∨ (∃ texts, command = .unpack texts) →
      run settings command = .ok printed →
      ∃ n : Numeric.Number, printed = n.toDecimal.toText ∧
        ((∃ texts, command = .unpack texts) → n.digits.length ≤ 32767) ∧
        (n.digits.length ≤ 10 ^ 17 →
          Quantity.ofLiteral? printed = some (.finite n.toDecimal) ∧
          ∀ edition environment, Line.answer edition environment [Name.encode.text, printed] =
            if n.sign = .positive ∨ n.toDecimal.IsPlain then
              Line.execute environment (.encode (.finite n.toDecimal))
            else Line.unread .encode) := by
  constructor
  · intro name command hname edition environment
    have hasks : Asks name [text] command := by
      rcases hname with ⟨rfl, rfl⟩ | ⟨rfl, rfl⟩
      · exact .encode hq
      · exact .pack hq
    have hdivider := answer_divider edition environment hasks
    have halone (h : ReadsAlone text) := answer_alone edition environment hq h hasks
    have hunread (h : ¬ ReadsAlone text) := answer_unread edition environment name hq h
    refine ⟨hdivider, halone, hunread, ?_, ?_⟩
    · intro hsame
      by_contra h
      rw [hunread h, hdivider] at hsame
      exact unread_ne_execute hsame
    · intro h
      rw [halone h, hdivider]
  · rintro settings command printed (⟨wire, rfl⟩ | ⟨texts, rfl⟩) hrun
    · obtain ⟨n, rfl⟩ := run_decode_eq_ok hrun
      refine ⟨n, rfl, by simp, ?_⟩
      intro hlength
      have hreach := inReach_toDecimal n hlength
      exact ⟨Quantity.ofLiteral?_toText hreach,
        fun edition environment => answer_toText edition environment hreach⟩
    · obtain ⟨n, rfl, hlength⟩ := run_unpack_eq_ok hrun
      have hreach := inReach_toDecimal n (by omega)
      refine ⟨n, rfl, fun _ => hlength, fun _ => ?_⟩
      exact ⟨Quantity.ofLiteral?_toText hreach,
        fun edition environment => answer_toText edition environment hreach⟩

/-- A negative number without an exponent reads alone, an infinity with a hyphen does not; and the
way back from a frame prints a text that is refused on the way out. -/
theorem answer_literal_hyphen :
    Line.answer .late ⟨none, none⟩ ["pack", "-12.5"] =
        Line.answer .late ⟨none, none⟩ ["pack", "--", "-12.5"] ∧
      Line.answer .early ⟨none, none⟩ ["pack", "-Infinity"] = Line.unread .pack ∧
      run .default (.unpack ["0001000240000000", "0001"]) = .ok "-1E+8" ∧
      Line.answer .late ⟨none, none⟩ ["encode", "-1E+8"] = Line.unread .encode := by
  have hpack : Frame.pack (.number ⟨.negative, 2, 0, [1], by decide, by decide, by decide⟩) =
      .ok [0, 1, 0, 2, 64, 0, 0, 0, 0, 1] := rfl
  have hrun : run .default (.unpack ["0001000240000000", "0001"]) = .ok "-1E+8" :=
    (run_unpack .default hpack rfl).trans rfl
  have hread : Quantity.ofLiteral? "-1E+8" = some (.finite ⟨.negative, 1, 8⟩) := rfl
  have hplain : Quantity.ofLiteral? "-12.5" = some (.finite ⟨.negative, 125, -1⟩) := rfl
  have hnamed : Quantity.ofLiteral? "-Infinity" = some (.infinity .negative) := rfl
  obtain ⟨hnumber, hback⟩ := answer_literal hplain
  obtain ⟨hinfinity, -⟩ := answer_literal hnamed
  obtain ⟨-, -, -, hsame⟩ := hnumber _ _ (Or.inr ⟨rfl, rfl⟩) .late ⟨none, none⟩
  obtain ⟨-, -, hunread, -⟩ := hinfinity _ _ (Or.inr ⟨rfl, rfl⟩) .early ⟨none, none⟩
  obtain ⟨n, -, hlength, hencode⟩ := hback _ _ _ (Or.inr ⟨_, rfl⟩) hrun
  obtain ⟨hn, hanswer⟩ := hencode ((hlength ⟨_, rfl⟩).trans (by norm_num))
  have hdecimal : n.toDecimal = ⟨.negative, 1, 8⟩ := by
    rw [hread] at hn
    exact (Quantity.finite.inj (Option.some.inj hn)).symm
  have hsign : n.sign = .negative := congrArg Decimal.sign hdecimal
  refine ⟨hsame.2 (by decide), hunread (by decide), hrun, ?_⟩
  refine (hanswer _ _).trans (if_neg ?_)
  rw [hsign, hdecimal]
  decide

end Command

end NumericWire
