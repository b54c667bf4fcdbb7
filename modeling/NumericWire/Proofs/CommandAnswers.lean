import NumericWire.Base10000.Reader
import NumericWire.Command.Line
import NumericWire.Proofs.CommandGrammar
import NumericWire.Proofs.CommandRoutes
/-!
# NumericWire.Proofs.CommandAnswers

**Every outcome of the command line has its status.** Arguments that are no command line come
first, then settings that cannot be read, then the command itself (`Command.answer_outcome`). The
log stands in front of what is said about the outcome if a flag asks for it, and makes no other
difference.

A command may fail, but only in the ways that it is meant to: by a fault of the conversions
(`Fault.IsNumeric`), an invalid document with its issues or a text that is no hexadecimal
(`Command.run_fault`). Faults of another kind would speak of a defect of the program, such as a
value of the wrong kind or a command that no word stands for; none of them occurs.
-/

namespace NumericWire

namespace Fault

/-- Whether a fault is one of the conversions between decimals, wire values and frames. -/
def IsNumeric : Fault → Prop
  | unsupported _ | outOfRange _ | invalidWireValue _ | malformedFrame _ | unexpectedNull => True
  | _ => False

/-- Whether a fault is one of the settings. -/
def IsSetting : Fault → Prop
  | maxScale _ | notInteger _ | longInteger _ => True
  | _ => False

end Fault

namespace Settings

/-! ### The faults of settings -/

theorem ofParts_fault {encodeNan : Bool} {n : ℤ} {fault : Fault}
    (h : ofParts encodeNan n = .error fault) : fault.IsSetting := by
  unfold ofParts at h
  split at h
  · simp at h
  · obtain rfl := Except.error.inj h
    trivial

theorem integerOfText_fault {s : String} {fault : Fault} (h : integerOfText s = .error fault) :
    fault.IsSetting := by
  simp only [integerOfText] at h
  split at h
  · obtain rfl := Except.error.inj h
    trivial
  split at h
  · obtain rfl := Except.error.inj h
    trivial
  split at h
  · obtain rfl := Except.error.inj h
    trivial
  · simp at h

theorem ofEnvironment_fault {environment : Environment} {fault : Fault}
    (h : ofEnvironment environment = .error fault) : fault.IsSetting := by
  simp only [ofEnvironment] at h
  split at h
  · exact ofParts_fault h
  split at h
  · exact ofParts_fault h
  · rename_i hinteger
    obtain rfl := Except.error.inj h
    exact integerOfText_fault hinteger

end Settings

variable {settings : Settings} {fault : Fault} {q : Quantity} {w : Numeric} {bs : List UInt8}

namespace Numeric

/-! ### The faults of conversions -/

theorem ofQuantity_isNumeric (h : ofQuantity settings q = .error fault) : fault.IsNumeric := by
  rcases ofQuantity_fault h with ⟨cause, rfl⟩ | ⟨excess, rfl⟩
  · trivial
  · trivial

theorem toDecimal_isNumeric (h : w.toDecimal = .error fault) : fault.IsNumeric := by
  cases w with
  | number n => simp [toDecimal] at h
  | nan =>
      obtain rfl := Except.error.inj h
      trivial

/-- A text that is no document of a wire value has issues. -/
theorem ofJsonText_fault {s : String} (h : ofJsonText s = .error fault) :
    ∃ issues, issues ≠ [] ∧ fault = .invalidDocument issues := by
  cases hs : Json.ofText? .strict s with
  | none =>
      rw [Document.ofJsonText_of_none hs] at h
      exact ⟨_, by simp, (Except.error.inj h).symm⟩
  | some v =>
      rw [Document.ofJsonText_of_some hs] at h
      rcases Document.readValue_answer .text v with ⟨fields, w, -, -, hread⟩ | ⟨issues, hne, hread⟩
      · simp [hread] at h
      · rw [hread] at h
        exact ⟨issues, hne, (Except.error.inj h).symm⟩

end Numeric

namespace Frame

theorem pack_isNumeric (h : pack w = .error fault) : fault.IsNumeric := by
  obtain ⟨-, rfl⟩ := pack_eq_error_iff.1 h
  trivial

theorem unpack_isNumeric (h : unpack bs = .error fault) : fault.IsNumeric := by
  rcases unpack_fault h with ⟨damage, rfl⟩ | ⟨p, d, rfl⟩
  · trivial
  · trivial

theorem ofQuantity_isNumeric (h : ofQuantity settings q = .error fault) : fault.IsNumeric := by
  rw [ofQuantity] at h
  split at h
  · exact pack_isNumeric h
  · rename_i hq
    obtain rfl := Except.error.inj h
    exact Numeric.ofQuantity_isNumeric hq

theorem toDecimal_isNumeric (h : toDecimal bs = .error fault) : fault.IsNumeric := by
  rw [toDecimal] at h
  split at h
  · exact Numeric.toDecimal_isNumeric h
  · rename_i hbs
    obtain rfl := Except.error.inj h
    exact unpack_isNumeric hbs

end Frame

namespace Command

variable {edition : Edition} {command : Command} {request : Request} {verbose : Bool}
  {arguments texts : List String} {name : Name} {text : String}

/-! ### The faults of commands -/

/-- Whether a fault is one that a command may have. -/
def IsForeseen (fault : Fault) : Prop :=
  fault.IsNumeric ∨ (∃ issues, issues ≠ [] ∧ fault = .invalidDocument issues) ∨
    ∃ position, fault = .notHex position

theorem readHex_fault (h : readHex texts = .error fault) :
    ∃ position, fault = .notHex position := by
  rw [readHex] at h
  split at h
  · simp at h
  · exact ⟨_, (Except.error.inj h).symm⟩

/-- A chain of two fails in its first part or in its second. -/
theorem bind_eq_error {α β : Type} {x : Except Fault α} {f : α → Except Fault β}
    (h : x >>= f = .error fault) : x = .error fault ∨ ∃ a, x = .ok a ∧ f a = .error fault := by
  cases x with
  | error e => exact Or.inl (congrArg _ (Except.error.inj h))
  | ok a => exact Or.inr ⟨a, rfl, h⟩

theorem bind_eq_ok {α β : Type} {x : Except Fault α} {f : α → Except Fault β} {b : β}
    (h : x >>= f = .ok b) : ∃ a, x = .ok a ∧ f a = .ok b := by
  cases x with
  | error e => exact absurd h (by simp [bind, Except.bind])
  | ok a => exact ⟨a, rfl, h⟩

/-- **The faults of a command** are foreseen, whatever its arguments hold. -/
theorem run_fault (h : command.run settings = .error fault) : IsForeseen fault := by
  cases command with
  | encode q =>
      -- The document of a wire value never fails, so only the conversion does.
      rw [Numeric.run_encode] at h
      cases hq : Numeric.ofQuantity settings q with
      | error e =>
          rw [hq] at h
          obtain rfl := Except.error.inj h
          exact Or.inl (Numeric.ofQuantity_isNumeric hq)
      | ok w => simp [hq, Except.map] at h
  | decode wire =>
      rcases bind_eq_error h with hread | ⟨w, -, h⟩
      · exact Or.inr (Or.inl (Numeric.ofJsonText_fault hread))
      · rcases bind_eq_error h with hdecimal | ⟨x, -, h⟩
        · exact Or.inl (Numeric.toDecimal_isNumeric hdecimal)
        · simp [pure, Except.pure] at h
  | pack q =>
      rcases bind_eq_error h with hframe | ⟨bs, -, h⟩
      · exact Or.inl (Frame.ofQuantity_isNumeric hframe)
      · simp [pure, Except.pure] at h
  | unpack texts =>
      rcases bind_eq_error h with hhex | ⟨bs, -, h⟩
      · exact Or.inr (Or.inr (readHex_fault hhex))
      · rcases bind_eq_error h with hdecimal | ⟨x, -, h⟩
        · exact Or.inl (Frame.toDecimal_isNumeric hdecimal)
        · simp [pure, Except.pure] at h

/-- The digits of an aligned integer are split off without a fault, and each is in range. -/
theorem drain_aligned (x : Decimal) :
    ∃ ds, (Base10000.Reader.ofInt x.aligned).drain.1 = .ok ds ∧
      ∀ d ∈ ds, d ≤ Base10000.maxDigit := by
  refine ⟨(Base10000.digits x.aligned).reverse, ?_, ?_⟩
  · rw [Base10000.Reader.ofInt, if_neg (by omega)]
    rfl
  · intro d hd
    exact Nat.le_of_lt_succ (Base10000.digits_lt _ d (List.mem_reverse.1 hd))

/-! ### Logs -/

/-- The pieces of a frame are reported as the wire value in it, wherever it is cut. -/
theorem events_unpack (settings : Settings) (hpack : Frame.pack w = .ok bs)
    (hpieces : String.join texts = Text.Hex.encode bs) :
    events settings (.unpack texts) = w.toDecimalEvents := by
  have hread : readHex texts = .ok bs := by
    rw [readHex, hpieces, Text.Hex.decode_encode]
  rw [events, hread]
  show events.back (Frame.unpack bs) = _
  rw [Frame.unpack_pack hpack, events.back]

theorem failed_notMem_back (x : Except Fault Numeric) : .failed name fault ∉ events.back x := by
  rcases x with e | (n | _)
  · simp [events.back]
  · simp [events.back, Numeric.toDecimalEvents]
  · simp [events.back, Numeric.toDecimalEvents]

/-- Conversions report no failure. -/
theorem failed_notMem_events (settings : Settings) (command : Command) :
    .failed name fault ∉ command.events settings := by
  have hout (q : Quantity) : .failed name fault ∉ Numeric.ofQuantityEvents settings q := by
    unfold Numeric.ofQuantityEvents
    split
    · split <;> simp
    · simp
  cases command with
  | encode q => exact hout q
  | decode wire => exact failed_notMem_back _
  | pack q => exact hout q
  | unpack texts => exact failed_notMem_back _

/-- **The log reports a failure** just if the command fails, for want of settings or by itself. -/
theorem failed_mem_log_iff (environment : Environment) (command : Command) :
    (∃ fault, .failed command.name fault ∈ Line.log environment command) ↔
      (Line.execute environment command).status = 1 := by
  unfold Line.log Line.execute
  cases Settings.ofEnvironment environment with
  | error fault => simp
  | ok settings =>
      cases hrun : command.run settings with
      | error fault => simp [hrun]
      | ok text => simp [hrun, failed_notMem_events]

/-! ### Answers -/

/-- A text that is no literal is not handed to a command that wants one. -/
theorem not_isLine_of_not_literal (hhands : Hands edition arguments verbose name [text])
    (hslot : name.slot.literal = true) (htext : Quantity.ofLiteral? text = none) :
    ¬ IsLine edition arguments request := by
  rintro ⟨name', pieces, hhands', hasks⟩
  obtain ⟨-, rfl, rfl⟩ := hhands.unique hhands'
  generalize request.command = asked at hasks
  cases hasks with
  | encode hq => simp [htext] at hq
  | decode text => simp [Name.slot] at hslot
  | pack hq => simp [htext] at hq
  | unpack first rest => simp [Name.slot] at hslot

/-- What is no command line is refused before the environment is looked at. -/
theorem answer_of_not_isLine (hhelp : ofArguments edition arguments ≠ .error .help)
    (h : ∀ request, ¬ IsLine edition arguments request) :
    ∃ complaint, ∀ environment,
      Line.answer edition environment arguments = ⟨2, "", [.complaint complaint]⟩ := by
  cases hread : ofArguments edition arguments with
  | ok request => exact absurd (ofArguments_eq_ok_iff.1 hread) (h request)
  | error stop =>
      cases stop with
      | help => exact absurd hread hhelp
      | refused name complaint =>
          exact ⟨_, fun environment => by rw [Line.answer, hread]⟩

theorem answer_of_isLine (environment : Environment)
    (h : IsLine edition arguments ⟨command, verbose⟩) :
    Line.answer edition environment arguments =
      (Line.execute environment command).after
        (Line.logged verbose (Line.log environment command)) := by
  rw [Line.answer, ofArguments_eq_ok_iff.2 h]

/-- Without the log, the answer is that of the command. -/
theorem answer_of_isLine_quiet (environment : Environment)
    (h : IsLine edition arguments ⟨command, false⟩) :
    Line.answer edition environment arguments = Line.execute environment command := by
  rw [answer_of_isLine environment h, Line.logged_false, Answer.after_nil]

/-- **Every outcome has its answer**, and the outcomes are the foreseen ones. -/
theorem answer_outcome (hhelp : ofArguments edition arguments ≠ .error .help) :
    -- Arguments that are no command line are refused, in every environment alike.
    ((∀ request, ¬ IsLine edition arguments request) →
      ∃ complaint, ∀ environment,
        Line.answer edition environment arguments = ⟨2, "", [.complaint complaint]⟩) ∧
    -- Among them are those that hand a text that is no literal to a command that wants one.
    (∀ verbose name text, Hands edition arguments verbose name [text] →
      name.slot.literal = true → Quantity.ofLiteral? text = none →
      ∀ request, ¬ IsLine edition arguments request) ∧
    ∀ command verbose, IsLine edition arguments ⟨command, verbose⟩ →
      -- Settings come before the command, whichever it is.
      (∀ environment fault, Settings.ofEnvironment environment = .error fault →
        fault.IsSetting ∧
          Line.answer edition environment arguments =
            ⟨1, "", Line.logged verbose [.failed command.name fault] ++
              [.complaint ("Error: " ++ fault.message)]⟩) ∧
      -- With settings, the answer is what the command says, behind its log if that is wanted.
      (∀ environment settings, Settings.ofEnvironment environment = .ok settings →
        (∀ text, command.run settings = .ok text →
          Line.answer edition environment arguments =
            ⟨0, text ++ "\n", Line.logged verbose (command.events settings)⟩) ∧
        ∀ fault, command.run settings = .error fault →
          Line.answer edition environment arguments =
            ⟨1, "", Line.logged verbose
                (command.events settings ++ [.failed command.name fault]) ++
              [.complaint ("Error: " ++ fault.message)]⟩) ∧
      -- No fault is of a kind that speaks of a defect, and no digit leaves its range.
      (∀ settings fault, command.run settings = .error fault → IsForeseen fault) ∧
      (∀ x, command = .encode (.finite x) ∨ command = .pack (.finite x) →
        ∃ ds, (Base10000.Reader.ofInt x.aligned).drain.1 = .ok ds ∧
          ∀ d ∈ ds, d ≤ Base10000.maxDigit) ∧
      -- The way back does not depend on settings, and neither does its log.
      ∀ environment environment' settings settings',
        (∃ wire, command = .decode wire) ∨ (∃ texts, command = .unpack texts) →
        Settings.ofEnvironment environment = .ok settings →
        Settings.ofEnvironment environment' = .ok settings' →
        Line.answer edition environment arguments =
          Line.answer edition environment' arguments := by
  refine ⟨answer_of_not_isLine hhelp, fun verbose name text hhands hslot htext request =>
    not_isLine_of_not_literal hhands hslot htext, ?_⟩
  intro command verbose hline
  simp only [fun environment => answer_of_isLine environment hline, Line.execute, Line.log]
  refine ⟨?_, ?_, fun settings fault => run_fault, fun x _ => drain_aligned x, ?_⟩
  · intro environment fault hsettings
    refine ⟨Settings.ofEnvironment_fault hsettings, ?_⟩
    rw [hsettings]
    rfl
  · intro environment settings hsettings
    simp only [hsettings]
    constructor
    · intro text hrun
      simp only [hrun, Answer.after, List.append_nil]
    · intro fault hrun
      simp only [hrun, Answer.after]
  · intro environment environment' settings settings' hback hsettings hsettings'
    rw [hsettings, hsettings']
    rcases hback with ⟨wire, rfl⟩ | ⟨texts, rfl⟩
    · rfl
    · rfl

/-- A frame cut in two, with the divider between the pieces and the log asked for twice, in an
environment with settings and in one without; and a literal with a letter in it. -/
theorem answer_outcome_unpack :
    Line.answer .late ⟨some "no", some " 1_2 "⟩
        ["--verb", "-vv", "unpack", "0002000100000000", "--", "00010001"] =
      ⟨0, "10001\n", [.event (.decoded 1 2 0)]⟩ ∧
    Line.answer .late ⟨none, some "x"⟩
        ["--verb", "-vv", "unpack", "0002000100000000", "--", "00010001"] =
      ⟨1, "", [.event (.failed .unpack (.notInteger "x")),
        .complaint "Error: invalid literal for int() with base 10: 'x'"]⟩ ∧
    ∃ complaint, ∀ environment,
      Line.answer .late environment ["encode", "1O0"] = ⟨2, "", [.complaint complaint]⟩ := by
  have hcarries : Carries ["0002000100000000", "--", "00010001"] ["0002000100000000", "00010001"] :=
    .plain (Or.inl (by decide)) (.divider _)
  have hline : IsLine .late ["--verb", "-vv", "unpack", "0002000100000000", "--", "00010001"]
      ⟨.unpack ["0002000100000000", "00010001"], true⟩ := by
    refine ⟨.unpack, _, .verbose ?_ (.verbose ?_ (@Hands.word .late .unpack _ _ hcarries)),
      .unpack _ _⟩
    · exact Or.inl (by decide)
    · exact Or.inr ⟨1, Or.inl rfl⟩
  have hpack : Frame.pack (.number ⟨.positive, 1, 0, [1, 1], by decide, by decide, by decide⟩) =
      .ok [0, 2, 0, 1, 0, 0, 0, 0, 0, 1, 0, 1] := rfl
  have hrun (settings : Settings) :
      run settings (.unpack ["0002000100000000", "00010001"]) = .ok "10001" :=
    (run_unpack settings hpack rfl).trans rfl
  have hevents (settings : Settings) :
      events settings (.unpack ["0002000100000000", "00010001"]) = [.decoded 1 2 0] :=
    events_unpack settings hpack rfl
  have hread := ofArguments_eq_ok_iff.2 hline
  have hhands : Hands .late ["encode", "1O0"] false .encode ["1O0"] :=
    @Hands.word .late .encode _ _ (.plain (Or.inl (by decide)) .nil)
  have hnot : ofArguments .late ["encode", "1O0"] =
      .error (.refused (some .encode) (.notLiteral "value" "1O0")) := rfl
  obtain ⟨-, -, hanswer⟩ := answer_outcome (by rw [hread]; simp)
  obtain ⟨hsettings, hcommand, -⟩ := hanswer _ _ hline
  obtain ⟨hrefused, hliteral, -⟩ := answer_outcome (by rw [hnot]; simp)
  refine ⟨?_, ?_, hrefused (hliteral _ _ _ hhands rfl rfl)⟩
  · rw [(hcommand _ ⟨false, 12, by decide⟩ rfl).1 _ (hrun _), hevents]
    rfl
  · exact (hsettings _ (.notInteger "x") rfl).2.trans (by decide +kernel)

/-- With the log asked for, a command that succeeds is not silent, and what is said of one that
fails does not begin with the complaint. -/
theorem answer_logged :
    run .default (.encode (.finite ⟨.positive, 1, 0⟩)) =
        .ok "\x7b\"sign\": \"positive\", \"weight\": 0, \"scale\": 0, \"digits\": [1]\x7d" ∧
      ∀ edition,
        Line.answer edition ⟨none, none⟩ ["--verbose", "encode", "1"] =
          ⟨0, "\x7b\"sign\": \"positive\", \"weight\": 0, \"scale\": 0, \"digits\": [1]\x7d\n",
            [.event (.encoded .positive 0 0 1)]⟩ ∧
        Line.answer edition ⟨none, none⟩ ["-v", "unpack", "zz"] =
          ⟨1, "", [.event (.failed .unpack (.notHex 0)),
            .complaint "Error: non-hexadecimal number found in fromhex() arg at position 0"]⟩ := by
  refine ⟨rfl, ?_⟩
  intro edition
  cases edition with
  | early => decide +kernel
  | late => decide +kernel

end Command

end NumericWire
