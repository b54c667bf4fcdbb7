import NumericWire.Proofs.CommandFlags
import Mathlib.Data.List.Forall2
/-!
# NumericWire.Proofs.CommandGrammar

**The grammar of the command line.** A command line is the verbose flag, any number of times,
then the word of a command and what that command is handed (`Hands`). Behind the word a divider
may stand anywhere; in front of it only such arguments stand that are plain by themselves
(`Carries`). The two rounds of reading find a command exactly in such a line, and the one that
the line asks for (`ofArguments_eq_ok_iff`).

For a found command nothing may be left over, and what is left over stays so. So each argument
behind the word has been taken or is the divider, which is why the grammar needs to know no more
than which arguments are plain. It is the same for both editions but for the spellings of the
verbose flag, and the early edition reads whatever the late one does (`ofArguments_early`).
-/

namespace NumericWire

namespace Command

variable {edition : Edition} {flags : Spellings} {verbose : Bool} {name : Name}
  {argument : String} {arguments pieces : List String} {command : Command}

/-! ### The grammar -/

/-- Arguments and the pieces that they hand to a command. -/
inductive Carries : List String → List String → Prop
  | nil : Carries [] []
  /-- Behind the divider everything is a piece. -/
  | divider (pieces : List String) : Carries ("--" :: pieces) pieces
  | plain {argument : String} {arguments pieces : List String} (hplain : IsPlain argument.toList)
      (hrest : Carries arguments pieces) : Carries (argument :: arguments) (argument :: pieces)

/-- A command by its word and the pieces that it is handed. -/
inductive Asks : Name → List String → Command → Prop
  | encode {text : String} {q : Quantity} (hq : Quantity.ofLiteral? text = some q) :
      Asks .encode [text] (.encode q)
  | decode (text : String) : Asks .decode [text] (.decode text)
  | pack {text : String} {q : Quantity} (hq : Quantity.ofLiteral? text = some q) :
      Asks .pack [text] (.pack q)
  | unpack (first : String) (rest : List String) :
      Asks .unpack (first :: rest) (.unpack (first :: rest))

/-- Command lines with whether they ask for the log, the command that their word stands for and the
pieces that it is handed. -/
inductive Hands (edition : Edition) : List String → Bool → Name → List String → Prop
  | word {name : Name} {arguments pieces : List String} (hcarries : Carries arguments pieces) :
      Hands edition (name.text :: arguments) false name pieces
  | verbose {argument : String} {arguments : List String} {verbose : Bool} {name : Name}
      {pieces : List String} (hverbose : IsVerbose edition argument.toList)
      (hrest : Hands edition arguments verbose name pieces) :
      Hands edition (argument :: arguments) true name pieces

/-- Command lines and what they ask for. -/
def IsLine (edition : Edition) (arguments : List String) (request : Request) : Prop :=
  ∃ name pieces, Hands edition arguments request.verbose name pieces ∧
    Asks name pieces request.command

/-! ### What a line hands over is settled -/

theorem IsPlain.ne_divider (h : IsPlain argument.toList) : argument ≠ "--" := by
  rintro rfl
  exact absurd h (by decide)

theorem IsVerbose.ne_divider (h : IsVerbose edition argument.toList) : argument ≠ "--" := by
  rintro rfl
  rcases h with ⟨hstart, -⟩ | ⟨n, hn | ⟨-, hn⟩⟩
  · exact absurd hstart (by decide)
  · simp [List.replicate_succ] at hn
  · simp at hn

/-- A word starts with no hyphen. -/
theorem not_isVerbose_text (name : Name) : ¬ IsVerbose edition name.text.toList := by
  rintro (⟨⟨rest, hrest⟩, -⟩ | ⟨n, hn | ⟨-, hn⟩⟩)
  · cases name <;> simp [Name.text] at hrest
  · cases name <;> simp [Name.text] at hn
  · cases name <;> simp [Name.text] at hn

theorem Name.text_ne_divider (name : Name) : name.text ≠ "--" := by
  cases name <;> decide

theorem Name.text_injective {name name' : Name} (h : name.text = name'.text) : name = name' := by
  have hname := Name.ofText?_text name
  rw [h, Name.ofText?_text] at hname
  exact (Option.some.inj hname).symm

theorem Carries.unique {pieces' : List String} (h : Carries arguments pieces)
    (h' : Carries arguments pieces') : pieces = pieces' := by
  induction h generalizing pieces' with
  | nil =>
      cases h'
      rfl
  | divider pieces =>
      cases h' with
      | divider => rfl
      | plain hplain hrest => exact absurd rfl hplain.ne_divider
  | plain hplain hrest ih =>
      cases h' with
      | divider => exact absurd rfl hplain.ne_divider
      | plain hplain' hrest' => rw [ih hrest']

/-- **A line is read in one way only.** -/
theorem Hands.unique {verbose' : Bool} {name' : Name} {pieces' : List String}
    (h : Hands edition arguments verbose name pieces)
    (h' : Hands edition arguments verbose' name' pieces') :
    verbose = verbose' ∧ name = name' ∧ pieces = pieces' := by
  induction h generalizing verbose' with
  | @word name arguments pieces hcarries =>
      generalize hfirst : name.text = first at h'
      cases h' with
      | word hcarries' => exact ⟨rfl, Name.text_injective hfirst, hcarries.unique hcarries'⟩
      | verbose hverbose hrest =>
          rw [← hfirst] at hverbose
          exact absurd hverbose (not_isVerbose_text name)
  | verbose hverbose hrest ih =>
      cases h' with
      | word hcarries => exact absurd hverbose (not_isVerbose_text name')
      | verbose hverbose' hrest' => exact ⟨rfl, (ih hrest').2⟩

/-! ### The arguments behind the word -/

/-- The argument of a plain token. -/
def plainText? : String × Token → Option String
  | (argument, .plain) => some argument
  | _ => none

@[simp] theorem plainText?_plain (argument : String) :
    plainText? (argument, .plain) = some argument := rfl

@[simp] theorem plainText?_divider (argument : String) :
    plainText? (argument, .divider) = none := rfl

/-- Whether a token is of the kind that a command takes or passes over. -/
def IsHanded (token : Token) : Prop := token = .plain ∨ token = .divider

variable {ts : List (String × Token)} {round round' : Round} {values : List Argument}

/-- Arguments and the tokens that they are taken for. -/
inductive Marks (flags : Spellings) : List String → List (String × Token) → Prop
  | nil : Marks flags [] []
  | divider (arguments : List String) :
      Marks flags ("--" :: arguments) (("--", .divider) :: arguments.map fun a => (a, .plain))
  | cons {argument : String} {arguments : List String} {token : Token}
      {more : List (String × Token)} (hne : argument ≠ "--")
      (htoken : classify flags argument = .ok token) (hmore : Marks flags arguments more) :
      Marks flags (argument :: arguments) ((argument, token) :: more)

theorem marks_of_tokens (h : tokens flags arguments = .ok ts) : Marks flags arguments ts := by
  induction arguments generalizing ts with
  | nil =>
      obtain rfl := Except.ok.inj h
      exact .nil
  | cons argument arguments ih =>
      rw [tokens] at h
      split at h
      · rename_i hdivider
        subst hdivider
        obtain rfl := Except.ok.inj h
        exact .divider arguments
      rename_i hne
      split at h
      · simp at h
      rename_i token htoken
      cases hmore : tokens flags arguments with
      | error complaint => simp [hmore, Except.map] at h
      | ok more =>
          rw [hmore] at h
          obtain rfl := Except.ok.inj h
          exact .cons hne htoken (ih hmore)

theorem Marks.tokens_eq (h : Marks flags arguments ts) : tokens flags arguments = .ok ts := by
  induction h with
  | nil => rfl
  | divider arguments => exact if_pos rfl
  | cons hne htoken hmore ih =>
      rw [tokens, if_neg hne, htoken]
      simp only [ih, Except.map]

/-- Tokens keep their arguments. -/
theorem Marks.map_fst (h : Marks flags arguments ts) : ts.map (·.1) = arguments := by
  induction h with
  | nil => rfl
  | divider arguments => simp [Function.comp_def]
  | cons hne htoken hmore ih => rw [List.map_cons, ih]

/-- Whatever flag there is behind the word, it is the help flag. -/
theorem Marks.ne_verbose (h : Marks innerFlags arguments ts) :
    ∀ t ∈ ts, ∀ attached, t.2 ≠ .flag .verbose attached := by
  induction h with
  | nil => simp
  | divider arguments => simp
  | cons hne htoken hmore ih =>
      refine List.forall_mem_cons.2 ⟨?_, ih⟩
      rcases classify_innerFlags_eq_ok htoken with ⟨rfl, -⟩ | rfl | ⟨attached, rfl⟩ <;> simp

theorem filterMap_plainText?_divider (arguments : List String) :
    (("--", Token.divider) :: arguments.map fun a => (a, Token.plain)).filterMap plainText? =
      arguments := by
  rw [List.filterMap_cons_none (plainText?_divider _), List.filterMap_map]
  exact List.filterMap_some

/-- Arguments of which each is taken or is the divider carry what is plain among them. -/
theorem Marks.carries (h : Marks innerFlags arguments ts) (hts : ∀ t ∈ ts, IsHanded t.2) :
    Carries arguments (ts.filterMap plainText?) := by
  induction h with
  | nil => exact .nil
  | divider arguments =>
      rw [filterMap_plainText?_divider]
      exact .divider arguments
  | cons hne htoken hmore ih =>
      obtain ⟨hfirst, hrest⟩ := List.forall_mem_cons.1 hts
      rcases classify_innerFlags_eq_ok htoken with ⟨rfl, hplain⟩ | rfl | ⟨attached, rfl⟩
      · exact .plain hplain (ih hrest)
      · simp [IsHanded] at hfirst
      · simp [IsHanded] at hfirst

/-- Conversely such arguments are told apart as plain ones and the divider. -/
theorem Carries.exists_marks (h : Carries arguments pieces) :
    ∃ ts, Marks innerFlags arguments ts ∧ (∀ t ∈ ts, IsHanded t.2) ∧
      ts.filterMap plainText? = pieces := by
  induction h with
  | nil => exact ⟨[], .nil, by simp, rfl⟩
  | divider pieces =>
      refine ⟨_, .divider pieces, ?_, filterMap_plainText?_divider pieces⟩
      simp [IsHanded]
  | plain hplain hrest ih =>
      obtain ⟨ts, hmarks, hts, hpieces⟩ := ih
      refine ⟨_, .cons hplain.ne_divider (classify_of_isPlain hplain) hmarks, ?_, ?_⟩
      · exact List.forall_mem_cons.2 ⟨Or.inl rfl, hts⟩
      · rw [List.filterMap_cons_some (plainText?_plain _), hpieces]

/-- In the first round they are told apart as well, if not in the same way. -/
theorem Carries.exists_marks_outer (h : Carries arguments pieces) :
    ∃ ts, Marks outerFlags arguments ts := by
  induction h with
  | nil => exact ⟨[], .nil⟩
  | divider pieces => exact ⟨_, .divider pieces⟩
  | plain hplain hrest ih =>
      obtain ⟨ts, hmarks⟩ := ih
      obtain ⟨token, htoken⟩ := classify_outerFlags_ok hplain.not_meansHelp
      exact ⟨_, .cons hplain.ne_divider htoken hmarks⟩

/-! ### The second round -/

theorem take_eq_ok_iff :
    round.take name argument = .ok round' ↔
      ∃ value, name.slot.read argument = .ok value ∧
        round' = { round with progress := .taking, taken := round.taken ++ [value] } := by
  rw [Round.take]
  cases name.slot.read argument <;> simp [eq_comm]

/-- **A step that leaves nothing over** takes an argument or passes over the divider. -/
theorem step_eq_ok {t : String × Token} (h : Round.step edition name round t = .ok round')
    (hflag : ∀ attached, t.2 ≠ .flag .verbose attached) (hleft : round'.left = []) :
    round.left = [] ∧
      ((∃ value, t.2 = .plain ∧ name.slot.read t.1 = .ok value ∧
          round'.taken = round.taken ++ [value]) ∨
        t.2 = .divider ∧ round'.taken = round.taken) := by
  obtain ⟨argument, token⟩ := t
  cases token with
  | plain =>
      simp only [Round.step] at h
      split at h
      · obtain ⟨value, hread, rfl⟩ := take_eq_ok_iff.1 h
        exact ⟨hleft, Or.inl ⟨value, rfl, hread, rfl⟩⟩
      · obtain ⟨value, hread, rfl⟩ := take_eq_ok_iff.1 h
        exact ⟨hleft, Or.inl ⟨value, rfl, hread, rfl⟩⟩
      · obtain rfl := Except.ok.inj h
        simp [Round.leave] at hleft
      · obtain rfl := Except.ok.inj h
        simp [Round.leave] at hleft
  | divider =>
      simp only [Round.step] at h
      split at h
      · obtain rfl := Except.ok.inj h
        exact ⟨hleft, Or.inr ⟨rfl, rfl⟩⟩
      · obtain rfl := Except.ok.inj h
        exact ⟨hleft, Or.inr ⟨rfl, rfl⟩⟩
      · obtain rfl := Except.ok.inj h
        exact ⟨hleft, Or.inr ⟨rfl, rfl⟩⟩
      · obtain rfl := Except.ok.inj h
        simp [Round.leave] at hleft
  | unknownFlag =>
      obtain rfl := Except.ok.inj h
      simp [Round.leave] at hleft
  | flag flag attached =>
      cases flag with
      | help =>
          simp only [Round.step] at h
          split at h
          · simp at h
          · rename_i huse
            exact absurd huse (useFlags_help _ _ _ _ _)
      | verbose => exact absurd rfl (hflag attached)

/-- **A run that leaves nothing over** takes every plain argument, and there is nothing else but
the divider. -/
theorem foldlM_step_eq_ok (h : ts.foldlM (Round.step edition name) round = .ok round')
    (hflag : ∀ t ∈ ts, ∀ attached, t.2 ≠ .flag .verbose attached) (hleft : round'.left = []) :
    round.left = [] ∧ (∀ t ∈ ts, IsHanded t.2) ∧
      ∃ values, List.Forall₂ (fun s value => name.slot.read s = .ok value)
          (ts.filterMap plainText?) values ∧ round'.taken = round.taken ++ values := by
  induction ts generalizing round with
  | nil =>
      obtain rfl := Except.ok.inj h
      exact ⟨hleft, by simp, [], .nil, by simp⟩
  | cons t ts ih =>
      rw [List.foldlM_cons] at h
      obtain ⟨hfirst, hrest⟩ := List.forall_mem_cons.1 hflag
      cases hstep : Round.step edition name round t with
      | error stop => simp [hstep, bind, Except.bind] at h
      | ok next =>
          rw [hstep] at h
          obtain ⟨hnext, hhanded, values, hvalues, htaken⟩ := ih h hrest
          obtain ⟨argument, token⟩ := t
          obtain ⟨hround, ⟨value, rfl, hread, hvalue⟩ | ⟨rfl, hsame⟩⟩ :=
            step_eq_ok hstep hfirst hnext
          · refine ⟨hround, List.forall_mem_cons.2 ⟨Or.inl rfl, hhanded⟩, value :: values, ?_, ?_⟩
            · rw [List.filterMap_cons_some (plainText?_plain _)]
              exact .cons hread hvalues
            · rw [htaken, hvalue, List.append_assoc, List.singleton_append]
          · refine ⟨hround, List.forall_mem_cons.2 ⟨Or.inr rfl, hhanded⟩, values, ?_, ?_⟩
            · rwa [List.filterMap_cons_none (plainText?_divider _)]
            · rw [htaken, hsame]

/-- Whether a command would take one more argument. -/
def Round.IsOpen (name : Name) (round : Round) : Prop :=
  round.progress = .waiting ∨ round.progress = .taking ∧ name.slot.many = true

theorem step_plain {value : Argument} (hopen : round.IsOpen name)
    (hread : name.slot.read argument = .ok value) :
    Round.step edition name round (argument, .plain) =
      .ok ⟨.taking, round.taken ++ [value], round.left⟩ := by
  have htake : round.take name argument = .ok ⟨.taking, round.taken ++ [value], round.left⟩ :=
    take_eq_ok_iff.2 ⟨value, hread, rfl⟩
  rcases hopen with hwaiting | ⟨htaking, hmany⟩
  · simp only [Round.step, hwaiting, htake]
  · simp only [Round.step, htaking, hmany, htake]

theorem step_divider (hopen : round.IsOpen name) :
    Round.step edition name round (argument, .divider) = .ok round := by
  rcases hopen with hwaiting | ⟨htaking, hmany⟩
  · simp only [Round.step, hwaiting]
  · simp only [Round.step, htaking, hmany]

/-- A slot for all that stands together takes every plain argument. -/
theorem foldlM_step_many (hmany : name.slot.many = true) (hopen : round.IsOpen name)
    (hts : ∀ t ∈ ts, IsHanded t.2)
    (hvalues : List.Forall₂ (fun s value => name.slot.read s = .ok value)
      (ts.filterMap plainText?) values) :
    ∃ progress, ts.foldlM (Round.step edition name) round =
      .ok ⟨progress, round.taken ++ values, round.left⟩ := by
  induction ts generalizing round values with
  | nil =>
      cases hvalues
      exact ⟨round.progress, by rw [List.append_nil]; rfl⟩
  | cons t ts ih =>
      obtain ⟨argument, token⟩ := t
      obtain ⟨rfl | rfl, hrest⟩ := List.forall_mem_cons.1 hts
      · rw [List.filterMap_cons_some (plainText?_plain _)] at hvalues
        cases hvalues with
        | @cons _ value _ values hread hvalues =>
            have hnext : Round.IsOpen name ⟨.taking, round.taken ++ [value], round.left⟩ :=
              Or.inr ⟨rfl, hmany⟩
            obtain ⟨progress, hrun⟩ := ih hnext hrest hvalues
            refine ⟨progress, ?_⟩
            rw [List.foldlM_cons, step_plain hopen hread]
            refine hrun.trans ?_
            rw [List.append_assoc, List.singleton_append]
      · rw [List.filterMap_cons_none (plainText?_divider _)] at hvalues
        obtain ⟨progress, hrun⟩ := ih hopen hrest hvalues
        refine ⟨progress, ?_⟩
        rw [List.foldlM_cons, step_divider hopen]
        exact hrun

/-- **The arguments that carry pieces** hand over just these, if the slot has room for them. -/
theorem exists_run_of_carries (edition : Edition) (hcarries : Carries arguments pieces)
    (hroom : name.slot.many = true ∨ pieces.length = 1)
    (hvalues : List.Forall₂ (fun s value => name.slot.read s = .ok value) pieces values) :
    ∃ ts progress, Marks innerFlags arguments ts ∧
      ts.foldlM (Round.step edition name) Round.start = .ok ⟨progress, values, []⟩ := by
  by_cases hmany : name.slot.many = true
  · obtain ⟨ts, hmarks, hts, rfl⟩ := hcarries.exists_marks
    have hopen : Round.start.IsOpen name := Or.inl rfl
    obtain ⟨progress, hrun⟩ := foldlM_step_many hmany hopen hts hvalues
    exact ⟨ts, progress, hmarks, hrun⟩
  · -- A slot for one argument: the divider stands in front of it, behind it or nowhere.
    obtain ⟨piece, rfl⟩ := List.length_eq_one_iff.1 (hroom.resolve_left hmany)
    obtain ⟨value, rest, hread, hrest, rfl⟩ := List.forall₂_cons_left_iff.1 hvalues
    obtain rfl := List.forall₂_nil_left_iff.1 hrest
    have hstep : Round.step edition name Round.start (piece, .plain) =
        .ok ⟨.taking, [value], []⟩ :=
      step_plain (Or.inl rfl) hread
    cases hcarries with
    | divider =>
        refine ⟨_, .taking, .divider _, ?_⟩
        rw [List.foldlM_cons, step_divider (Or.inl rfl)]
        exact congrArg (· >>= _) hstep
    | plain hplain hrest =>
        have htoken := classify_of_isPlain hplain
        cases hrest with
        | nil =>
            refine ⟨_, .taking, .cons hplain.ne_divider htoken .nil, ?_⟩
            exact congrArg (· >>= _) hstep
        | divider =>
            refine ⟨_, .done, .cons hplain.ne_divider htoken (.divider []), ?_⟩
            rw [List.foldlM_cons, hstep]
            simp only [Bool.not_eq_true] at hmany
            simp only [bind, Except.bind, List.map_nil, List.foldlM_cons, Round.step, hmany]
            rfl

/-! ### What the slots want -/

theorem read_literal_iff {slot : Slot} {q : Quantity} :
    slot.read argument = .ok (.literal q) ↔
      slot.literal = true ∧ Quantity.ofLiteral? argument = some q := by
  rw [Slot.read]
  split
  · cases Quantity.ofLiteral? argument <;> simp_all
  · simp_all

theorem read_text_iff {slot : Slot} {s : String} :
    slot.read argument = .ok (.text s) ↔ slot.literal = false ∧ argument = s := by
  rw [Slot.read]
  split
  · cases Quantity.ofLiteral? argument <;> simp_all
  · simp_all

/-- Texts are handed over as they are. -/
theorem filterMap_text?_of_read {slot : Slot} (hslot : slot.literal = false)
    (hvalues : List.Forall₂ (fun s value => slot.read s = .ok value) pieces values) :
    values.filterMap Argument.text? = pieces := by
  induction hvalues with
  | nil => rfl
  | @cons s value pieces values hread hrest ih =>
      obtain rfl : Argument.text s = value := by
        simpa [Slot.read, hslot] using hread
      simp [Argument.text?, ih]

theorem read_map_text {slot : Slot} (hslot : slot.literal = false) (pieces : List String) :
    List.Forall₂ (fun s value => slot.read s = .ok value) pieces (pieces.map .text) := by
  rw [List.forall₂_map_right_iff, List.forall₂_same]
  intro s hs
  exact read_text_iff.2 ⟨hslot, rfl⟩

/-- A command is asked for by the values of its pieces. -/
theorem asks_iff :
    Asks name pieces command ↔
      ∃ values, List.Forall₂ (fun s value => name.slot.read s = .ok value) pieces values ∧
        ofArguments? name values = some command := by
  constructor
  · rintro (hq | text | hq | ⟨first, rest⟩)
    · exact ⟨[.literal _], .cons (read_literal_iff.2 ⟨rfl, hq⟩) .nil, rfl⟩
    · exact ⟨[.text text], .cons (read_text_iff.2 ⟨rfl, rfl⟩) .nil, rfl⟩
    · exact ⟨[.literal _], .cons (read_literal_iff.2 ⟨rfl, hq⟩) .nil, rfl⟩
    · have hslot : Name.unpack.slot.literal = false := rfl
      have hread := read_map_text hslot (first :: rest)
      refine ⟨_, hread, ?_⟩
      rw [List.map_cons, ofArguments?, ← List.map_cons, filterMap_text?_of_read rfl hread]
  · rintro ⟨values, hvalues, hcommand⟩
    unfold ofArguments? at hcommand
    split at hcommand
    · obtain rfl := Option.some.inj hcommand
      obtain ⟨text, rest, hread, hrest, rfl⟩ := List.forall₂_cons_right_iff.1 hvalues
      obtain rfl := List.forall₂_nil_right_iff.1 hrest
      exact .encode (read_literal_iff.1 hread).2
    · obtain rfl := Option.some.inj hcommand
      obtain ⟨text, rest, hread, hrest, rfl⟩ := List.forall₂_cons_right_iff.1 hvalues
      obtain rfl := List.forall₂_nil_right_iff.1 hrest
      obtain ⟨-, rfl⟩ := read_text_iff.1 hread
      exact .decode text
    · obtain rfl := Option.some.inj hcommand
      obtain ⟨text, rest, hread, hrest, rfl⟩ := List.forall₂_cons_right_iff.1 hvalues
      obtain rfl := List.forall₂_nil_right_iff.1 hrest
      exact .pack (read_literal_iff.1 hread).2
    · obtain rfl := Option.some.inj hcommand
      rw [filterMap_text?_of_read rfl hvalues]
      obtain ⟨text, rest, -, -, rfl⟩ := List.forall₂_cons_right_iff.1 hvalues
      exact .unpack text rest
    · simp at hcommand

/-- The slot of a command has room for its pieces. -/
theorem Asks.room (h : Asks name pieces command) :
    name.slot.many = true ∨ pieces.length = 1 := by
  cases h with
  | encode hq => exact Or.inr rfl
  | decode text => exact Or.inr rfl
  | pack hq => exact Or.inr rfl
  | unpack first rest => exact Or.inl rfl

/-- **The second round** finds a command, with nothing left over, in what carries its pieces. -/
theorem readArguments_eq_ok_iff :
    readArguments edition name arguments = .ok (command, []) ↔
      ∃ pieces, Carries arguments pieces ∧ Asks name pieces command := by
  constructor
  · intro h
    rw [readArguments] at h
    split at h
    · simp at h
    rename_i ts htokens
    split at h
    · simp at h
    rename_i round hrun
    split at h
    · simp at h
    rename_i found hfound
    obtain ⟨rfl, hleft⟩ := Prod.mk.inj (Except.ok.inj h)
    have hmarks := marks_of_tokens htokens
    obtain ⟨-, hhanded, values, hvalues, htaken⟩ := foldlM_step_eq_ok hrun hmarks.ne_verbose hleft
    refine ⟨ts.filterMap plainText?, hmarks.carries hhanded, ?_⟩
    refine asks_iff.2 ⟨values, hvalues, ?_⟩
    rwa [htaken, Round.start, List.nil_append] at hfound
  · rintro ⟨pieces, hcarries, hasks⟩
    obtain ⟨values, hvalues, hcommand⟩ := asks_iff.1 hasks
    obtain ⟨ts, progress, hmarks, hrun⟩ := exists_run_of_carries edition hcarries hasks.room hvalues
    simp only [readArguments, hmarks.tokens_eq, hrun, hcommand]

/-! ### The first round -/

theorem Name.eq_text_of_ofText? {word : String} (h : Name.ofText? word = some name) :
    word = name.text := by
  have := List.find?_some h
  simpa [eq_comm] using this

variable {left : List String} {word : String} {request : Request}

/-- Nothing is left over where a command is found. -/
theorem readCommand_eq_ok_iff :
    readCommand edition verbose left word arguments = .ok request ↔
      left = [] ∧ request.verbose = verbose ∧ ∃ name pieces, word = Name.text name ∧
        Carries arguments pieces ∧ Asks name pieces request.command := by
  constructor
  · intro h
    rw [readCommand] at h
    split at h
    · simp at h
    rename_i name hname
    split at h
    · simp at h
    rename_i found more hfound
    split at h
    · rename_i hnil
      obtain rfl := Except.ok.inj h
      obtain ⟨rfl, rfl⟩ := List.append_eq_nil_iff.1 hnil
      obtain ⟨pieces, hpieces⟩ := readArguments_eq_ok_iff.1 hfound
      exact ⟨rfl, rfl, name, pieces, Name.eq_text_of_ofText? hname, hpieces⟩
    · simp at h
  · rintro ⟨rfl, rfl, name, pieces, rfl, hpieces⟩
    simp [readCommand, readArguments_eq_ok_iff.2 ⟨pieces, hpieces⟩]

/-- A word is followed by the arguments of its command, also where the divider stands for it. -/
theorem readCommand_of_readFlags {token : Token}
    (h : readFlags edition verbose left ((word, token) :: ts) = .ok request)
    (htoken : IsHanded token) :
    readCommand edition verbose left word (ts.map (·.1)) = .ok request := by
  rcases htoken with rfl | rfl
  · exact h
  · cases ts with
    | nil => simp [readFlags] at h
    | cons t ts => exact h

/-- What is left over in front of the word stays so. -/
theorem left_eq_nil_of_readFlags (h : readFlags edition verbose left ts = .ok request) :
    left = [] := by
  induction ts generalizing verbose left with
  | nil => simp [readFlags] at h
  | cons t ts ih =>
      obtain ⟨argument, token⟩ := t
      cases token with
      | plain => exact (readCommand_eq_ok_iff.1 (readCommand_of_readFlags h (Or.inl rfl))).1
      | divider => exact (readCommand_eq_ok_iff.1 (readCommand_of_readFlags h (Or.inr rfl))).1
      | unknownFlag => simpa using ih h
      | flag flag attached =>
          rw [readFlags] at h
          split at h
          · simp at h
          · exact (List.append_eq_nil_iff.1 (ih h)).1

theorem isLine_of_word {token : Token} (htoken : IsHanded token)
    (h : readFlags edition verbose [] ((word, token) :: ts) = .ok request) :
    request.verbose = verbose ∧
      IsLine edition (word :: ts.map (·.1)) ⟨request.command, false⟩ := by
  obtain ⟨-, hverbose, name, pieces, rfl, hcarries, hasks⟩ :=
    readCommand_eq_ok_iff.1 (readCommand_of_readFlags h htoken)
  exact ⟨hverbose, name, pieces, .word hcarries, hasks⟩

/-- **The first round** ends in a command for command lines only. The log is asked for in front of
them or by them. -/
theorem Marks.isLine (hmarks : Marks outerFlags arguments ts)
    (h : readFlags edition verbose [] ts = .ok request) :
    ∃ wanted, request.verbose = (verbose || wanted) ∧
      IsLine edition arguments ⟨request.command, wanted⟩ := by
  induction hmarks generalizing verbose with
  | nil => simp [readFlags] at h
  | divider arguments =>
      obtain ⟨hverbose, hline⟩ := isLine_of_word (Or.inr rfl) h
      refine ⟨false, by rw [hverbose, Bool.or_false], ?_⟩
      simpa [Function.comp_def] using hline
  | @cons argument arguments token more hne htoken hmore ih =>
      cases token with
      | plain =>
          obtain ⟨hverbose, hline⟩ := isLine_of_word (Or.inl rfl) h
          refine ⟨false, by rw [hverbose, Bool.or_false], ?_⟩
          rwa [hmore.map_fst] at hline
      | divider =>
          obtain ⟨hverbose, hline⟩ := isLine_of_word (Or.inr rfl) h
          refine ⟨false, by rw [hverbose, Bool.or_false], ?_⟩
          rwa [hmore.map_fst] at hline
      | unknownFlag =>
          rw [readFlags] at h
          simpa using left_eq_nil_of_readFlags h
      | flag flag attached =>
          rw [readFlags] at h
          split at h
          · simp at h
          rename_i used hused
          have hleft : used.left = [] := left_eq_nil_of_readFlags h
          rw [hleft] at h
          obtain ⟨wanted, hverbose, name, pieces, hhands, hasks⟩ := ih h
          refine ⟨true, ?_, name, pieces, .verbose ?_ hhands, hasks⟩
          · rw [hverbose, contains_verbose_of_useFlags hused, Bool.or_true, Bool.true_or]
          · exact isVerbose_of_useFlags htoken hused hleft

/-- The word of a command is plain, also with the verbose flag among the spellings. -/
theorem classify_text (name : Name) : classify outerFlags name.text = .ok .plain := by
  cases name <;> rfl

theorem Hands.exists_marks {wanted : Bool} (h : Hands edition arguments wanted name pieces)
    (hasks : Asks name pieces command) :
    ∃ ts, Marks outerFlags arguments ts ∧
      ∀ verbose, readFlags edition verbose [] ts = .ok ⟨command, verbose || wanted⟩ := by
  induction h with
  | @word name arguments pieces hcarries =>
      obtain ⟨ts, hmarks⟩ := hcarries.exists_marks_outer
      refine ⟨_, .cons name.text_ne_divider (classify_text name) hmarks, ?_⟩
      intro verbose
      rw [readFlags, hmarks.map_fst, Bool.or_false]
      exact readCommand_eq_ok_iff.2 ⟨rfl, rfl, name, pieces, rfl, hcarries, hasks⟩
  | verbose hverbose hrest ih =>
      obtain ⟨ts, hmarks, hread⟩ := ih hasks
      obtain ⟨attached, htoken, hattaches⟩ := classify_of_isVerbose hverbose
      obtain ⟨used, hused, hleft⟩ := hattaches.useFlags
      refine ⟨_, .cons hverbose.ne_divider htoken hmarks, ?_⟩
      intro verbose
      have hwanted := contains_verbose_of_useFlags hused
      simp only [readFlags, hused, hleft, hwanted, List.append_nil, hread, Bool.or_true,
        Bool.true_or]

/-- **Exactly the command lines are read**, and as what they ask for. -/
theorem ofArguments_eq_ok_iff :
    ofArguments edition arguments = .ok request ↔ IsLine edition arguments request := by
  constructor
  · intro h
    rw [ofArguments] at h
    split at h
    · simp at h
    · rename_i ts htokens
      obtain ⟨wanted, hverbose, hline⟩ := (marks_of_tokens htokens).isLine h
      rw [Bool.false_or] at hverbose
      rwa [← hverbose] at hline
  · rintro ⟨name, pieces, hhands, hasks⟩
    obtain ⟨ts, hmarks, hread⟩ := hhands.exists_marks hasks
    simp only [ofArguments, hmarks.tokens_eq, hread, Bool.false_or]

/-! ### The two editions -/

theorem IsVerbose.early {cs : List Char} (h : IsVerbose edition cs) : IsVerbose .early cs := by
  rcases h with hword | ⟨n, hletters | ⟨-, hassigned⟩⟩
  · exact Or.inl hword
  · exact Or.inr ⟨n, Or.inl hletters⟩
  · exact Or.inr ⟨n, Or.inr ⟨rfl, hassigned⟩⟩

theorem Hands.early (h : Hands edition arguments verbose name pieces) :
    Hands .early arguments verbose name pieces := by
  induction h with
  | word hcarries => exact .word hcarries
  | verbose hverbose hrest ih => exact .verbose hverbose.early ih

/-- **The early edition reads every command line of the late one**, and as the same. -/
theorem ofArguments_early (h : ofArguments edition arguments = .ok request) :
    ofArguments .early arguments = .ok request := by
  obtain ⟨name, pieces, hhands, hasks⟩ := ofArguments_eq_ok_iff.1 h
  exact ofArguments_eq_ok_iff.2 ⟨name, pieces, hhands.early, hasks⟩

/-- Not so the other way round: an equals sign among the letters is refused by the late edition. -/
example :
    ofArguments .early ["-v=v", "decode", "1"] = .ok ⟨.decode "1", true⟩ ∧
      ofArguments .late ["-v=v", "decode", "1"] =
        .error (.refused none (.valueIgnored .verbose "v")) :=
  ⟨rfl, rfl⟩

/-- What is no command line in either edition may be refused for different reasons, or be a wish for
help in the late one. -/
example :
    ofArguments .early ["-hx"] = .error (.refused none (.valueIgnored .help "x")) ∧
      ofArguments .late ["-hx"] = .error .help :=
  ⟨rfl, rfl⟩

end Command

end NumericWire
