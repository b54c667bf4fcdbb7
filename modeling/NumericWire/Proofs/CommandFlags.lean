import NumericWire.Command.Arguments
import Mathlib.Data.List.Infix
import Mathlib.Data.List.TakeWhile
/-!
# NumericWire.Proofs.CommandFlags

**What single arguments are taken for.** An argument with a hyphen in front is a flag by the
whole spelling, by the beginning of a spelling or by its first letter. These ways come to three
descriptions: it means the help flag (`MeansHelp`), it is the verbose flag (`IsVerbose`), or it is
plain all the same (`IsPlain`).

In the second round there is only the help flag, so every argument is plain, help or unknown
(`classify_innerFlags_eq_ok`). In the first round there is the verbose flag as well, and it is used,
with nothing left over, exactly in the spellings described (`isVerbose_of_useFlags`,
`classify_of_isVerbose`).

How an argument is told apart is the same in both editions; they differ in how it is used, and of
the verbose flag they take the same spellings except one, its letters behind an equals sign.
-/

namespace NumericWire

namespace Command

variable {edition : Edition} {flags : Spellings} {flag : Flag} {attached : Attached} {used : Used}
  {argument : String} {cs : List Char}

/-! ### Three kinds of arguments -/

/-- Whether an argument is taken for the help flag: it starts with the letter of that flag, or
its part before an equals sign is two hyphens and the beginning of its word. -/
def MeansHelp (cs : List Char) : Prop :=
  ['-', 'h'] <+: cs ∨
    ['-', '-'] <+: cs ∧ cs.takeWhile (· != '=') <+: ['-', '-', 'h', 'e', 'l', 'p']

instance (cs : List Char) : Decidable (MeansHelp cs) := inferInstanceAs (Decidable (_ ∨ _))

/-- Whether an argument is no flag, in front of a divider. With a hyphen in front it is none if
it is that hyphen, looks like a negative number or has a space in it. -/
def IsPlain (cs : List Char) : Prop :=
  cs.head? ≠ some '-' ∨ cs = ['-'] ∨ ¬ MeansHelp cs ∧ (looksNegative cs = true ∨ ' ' ∈ cs)

instance (cs : List Char) : Decidable (IsPlain cs) := inferInstanceAs (Decidable (_ ∨ _))

/-- Whether an argument is the verbose flag: a beginning of its word that is none of the help
flag, or its letter, any number of times. The early edition passes over an equals sign behind the
first letter. -/
def IsVerbose (edition : Edition) (cs : List Char) : Prop :=
  (['-', '-', 'v'] <+: cs ∧ cs <+: ['-', '-', 'v', 'e', 'r', 'b', 'o', 's', 'e']) ∨
    ∃ n, cs = '-' :: List.replicate (n + 1) 'v' ∨
      edition = .early ∧ cs = '-' :: 'v' :: '=' :: List.replicate (n + 1) 'v'

/-! ### The parts of an argument -/

theorem fst_splitAssignment (cs : List Char) :
    (splitAssignment cs).1 = cs.takeWhile (· != '=') := by
  unfold splitAssignment
  split
  · rename_i hnil
    exact (List.takeWhile_eq_self_iff.2 (List.dropWhile_eq_nil_iff.1 hnil)).symm
  · rfl

/-- The two texts are all of an argument but the equals sign between them. -/
theorem eq_of_splitAssignment {start value : List Char}
    (h : splitAssignment cs = (start, some value)) : cs = start ++ '=' :: value := by
  unfold splitAssignment at h
  split at h
  · simp at h
  · rename_i c rest hdrop
    obtain ⟨rfl, rfl⟩ : cs.takeWhile (· != '=') = start ∧ rest = value := by simpa using h
    have hc := List.head?_dropWhile_not (· != '=') cs
    rw [hdrop] at hc
    obtain rfl : c = '=' := by simpa using hc
    rw [← hdrop, List.takeWhile_append_dropWhile]

theorem eq_of_splitAssignment_none {start : List Char} (h : splitAssignment cs = (start, none)) :
    cs = start := by
  unfold splitAssignment at h
  split at h
  · exact (Prod.mk.inj h).1
  · simp at h

/-! ### The ways to tell an argument apart -/

/-- What the candidates of an argument, no whole spelling, make of it. -/
def ofCandidates (argument : String) : List (String × Flag × Attached) → Except Complaint Token
  | [(_, flag, attached)] => .ok (.flag flag attached)
  | [] =>
    if looksNegative argument.toList ∨ ' ' ∈ argument.toList then .ok .plain
    else .ok .unknownFlag
  | several => .error (.ambiguous argument (several.map (·.1)))

theorem exists_cons_cons (hhead : cs.head? = some '-') (hne : cs ≠ ['-']) :
    ∃ c rest, cs = '-' :: c :: rest := by
  obtain ⟨tail, rfl⟩ := List.head?_eq_some_iff.1 hhead
  cases tail with
  | nil => exact absurd rfl hne
  | cons c rest => exact ⟨c, rest, rfl⟩

/-- **How an argument comes to be what it is taken for**: without a hyphen, as a whole spelling, as
the hyphen alone, as a spelling with an equals sign behind it, or by its candidates. -/
theorem classify_cases (flags : Spellings) (argument : String) :
    (argument.toList.head? ≠ some '-' ∧ classify flags argument = .ok .plain) ∨
      (∃ flag, flags.find? argument.toList = some flag ∧
        classify flags argument = .ok (.flag flag .nothing)) ∨
      (argument.toList = ['-'] ∧ classify flags argument = .ok .plain) ∨
      (∃ start value flag, argument.toList = start ++ '=' :: value ∧
        flags.find? start = some flag ∧
        classify flags argument = .ok (.flag flag (attachedTo start (some value)))) ∨
      ∃ c rest, argument.toList = '-' :: c :: rest ∧
        classify flags argument = ofCandidates argument (candidates flags argument.toList) := by
  rw [classify]
  split
  · rename_i hhead
    exact Or.inl ⟨hhead, rfl⟩
  rename_i hhead
  split
  · rename_i flag hfind
    exact Or.inr (Or.inl ⟨flag, hfind, rfl⟩)
  split
  · rename_i hhyphen
    exact Or.inr (Or.inr (Or.inl ⟨hhyphen, rfl⟩))
  rename_i hne
  split
  split
  · rename_i hfind hsplit
    exact Or.inr (Or.inr (Or.inr (Or.inl ⟨_, _, _, eq_of_splitAssignment hsplit, hfind, rfl⟩)))
  · obtain ⟨c, rest, hcs⟩ := exists_cons_cons (not_not.1 hhead) hne
    refine Or.inr (Or.inr (Or.inr (Or.inr ⟨c, rest, hcs, ?_⟩)))
    rfl

/-! ### Single arguments in the second round -/

theorem find?_innerFlags (cs : List Char) :
    innerFlags.find? cs =
      if cs = ['-', 'h'] ∨ cs = ['-', '-', 'h', 'e', 'l', 'p'] then some .help else none := by
  have hletter : "-h".toList = ['-', 'h'] := rfl
  have hword : "--help".toList = ['-', '-', 'h', 'e', 'l', 'p'] := rfl
  simp only [Spellings.find?, innerFlags, List.find?_cons, hletter, hword]
  grind

theorem meansHelp_of_find? (h : innerFlags.find? cs = some flag) : flag = .help ∧ MeansHelp cs := by
  rw [find?_innerFlags] at h
  split at h
  · rename_i hcs
    refine ⟨(Option.some.inj h).symm, ?_⟩
    rcases hcs with rfl | rfl <;> decide
  · simp at h

/-- A spelling of the help flag before an equals sign means the help flag as well. -/
theorem MeansHelp.assignment {start value : List Char} (h : innerFlags.find? start = some flag) :
    MeansHelp (start ++ '=' :: value) := by
  rw [find?_innerFlags] at h
  split at h
  · rename_i hstart
    rcases hstart with rfl | rfl
    · exact Or.inl ⟨'=' :: value, rfl⟩
    · refine Or.inr ⟨⟨_, rfl⟩, ?_⟩
      simp
  · simp at h

theorem takeWhile_assignment_hyphens (rest : List Char) :
    ('-' :: '-' :: rest).takeWhile (· != '=') = '-' :: '-' :: rest.takeWhile (· != '=') := rfl

/-- With two hyphens in front, an argument means the flags that start like it. -/
theorem candidates_hyphens (flags : Spellings) (rest : List Char) :
    candidates flags ('-' :: '-' :: rest) =
      (flags.filter fun p =>
        (('-' :: '-' :: rest).takeWhile (· != '=')).isPrefixOf p.1.toList).map fun p =>
          (p.1, p.2, attachedTo (('-' :: '-' :: rest).takeWhile (· != '='))
            (splitAssignment ('-' :: '-' :: rest)).2) := by
  rw [← fst_splitAssignment]
  rfl

theorem meansHelp_hyphens_iff {rest : List Char} :
    MeansHelp ('-' :: '-' :: rest) ↔
      ('-' :: '-' :: rest).takeWhile (· != '=') <+: ['-', '-', 'h', 'e', 'l', 'p'] := by
  constructor
  · rintro (⟨tail, htail⟩ | ⟨-, hbegins⟩)
    · simp at htail
    · exact hbegins
  · exact fun hbegins => Or.inr ⟨⟨rest, rfl⟩, hbegins⟩

theorem meansHelp_letter_iff {c : Char} {rest : List Char} (hc : c ≠ '-') :
    MeansHelp ('-' :: c :: rest) ↔ c = 'h' := by
  constructor
  · rintro (⟨tail, htail⟩ | ⟨⟨tail, htail⟩, -⟩)
    · simp at htail
      exact htail.1.symm
    · simp at htail
      exact absurd htail.1.symm hc
  · rintro rfl
    exact Or.inl ⟨rest, rfl⟩

/-- With one hyphen in front, an argument means the flag of its letter. -/
theorem candidates_letter (flags : Spellings) {c : Char} (hc : c ≠ '-') (rest : List Char) :
    candidates flags ('-' :: c :: rest) =
      (flags.filter fun p => p.1.toList = ['-', c]).map fun p => (p.1, p.2, .letters rest) := by
  rw [candidates]
  simp [hc]

/-- What means the help flag has it as the one candidate; nothing else has a candidate. -/
theorem candidates_innerFlags {c : Char} {rest : List Char} (hcs : cs = '-' :: c :: rest) :
    (MeansHelp cs ∧ ∃ spelling attached,
        candidates innerFlags cs = [(spelling, .help, attached)]) ∨
      (¬ MeansHelp cs ∧ candidates innerFlags cs = []) := by
  subst hcs
  by_cases hc : c = '-'
  · subst hc
    rw [candidates_hyphens, meansHelp_hyphens_iff, takeWhile_assignment_hyphens]
    by_cases hbegins : '-' :: '-' :: rest.takeWhile (· != '=') <+: ['-', '-', 'h', 'e', 'l', 'p']
    · refine Or.inl ⟨hbegins, ?_⟩
      simp_all [innerFlags]
    · refine Or.inr ⟨hbegins, ?_⟩
      simp_all [innerFlags]
  · rw [candidates_letter innerFlags hc, meansHelp_letter_iff hc]
    by_cases hh : c = 'h'
    · subst hh
      exact Or.inl ⟨rfl, _, _, rfl⟩
    · refine Or.inr ⟨hh, ?_⟩
      simp [innerFlags, Ne.symm hh]

theorem MeansHelp.exists_cons (h : MeansHelp cs) :
    ∃ c rest, cs = '-' :: c :: rest ∧ (c = 'h' ∨ c = '-') := by
  rcases h with ⟨tail, rfl⟩ | ⟨⟨tail, rfl⟩, -⟩
  · exact ⟨_, _, rfl, Or.inl rfl⟩
  · exact ⟨_, _, rfl, Or.inr rfl⟩

theorem IsPlain.not_meansHelp (h : IsPlain cs) : ¬ MeansHelp cs := by
  intro hhelp
  obtain ⟨c, rest, rfl, -⟩ := hhelp.exists_cons
  rcases h with hhead | hhyphen | ⟨hnot, -⟩
  · simp at hhead
  · simp at hhyphen
  · exact hnot hhelp

/-- What means the help flag is taken for it. -/
theorem classify_of_meansHelp (h : MeansHelp argument.toList) :
    ∃ attached, classify innerFlags argument = .ok (.flag .help attached) := by
  obtain ⟨c, rest, hcs, -⟩ := h.exists_cons
  rcases classify_cases innerFlags argument with ⟨hhead, -⟩ | ⟨flag, hfind, hclassify⟩ |
    ⟨hhyphen, -⟩ | ⟨start, value, flag, -, hfind, hclassify⟩ | ⟨c', rest', hcs', hclassify⟩
  · simp [hcs] at hhead
  · rw [(meansHelp_of_find? hfind).1] at hclassify
    exact ⟨_, hclassify⟩
  · simp [hcs] at hhyphen
  · rw [(meansHelp_of_find? hfind).1] at hclassify
    exact ⟨_, hclassify⟩
  · rcases candidates_innerFlags hcs' with ⟨-, spelling, attached, hone⟩ | ⟨hnot, -⟩
    · rw [hone] at hclassify
      exact ⟨attached, hclassify⟩
    · exact absurd h hnot

/-- Without a flag to mean, it is a matter of how the argument looks. -/
theorem classify_of_not_meansHelp (h : ¬ MeansHelp argument.toList)
    (hhead : argument.toList.head? = some '-') (hne : argument.toList ≠ ['-']) :
    classify innerFlags argument =
      if looksNegative argument.toList ∨ ' ' ∈ argument.toList then .ok .plain
      else .ok .unknownFlag := by
  rcases classify_cases innerFlags argument with ⟨hno, -⟩ | ⟨flag, hfind, -⟩ | ⟨hhyphen, -⟩ |
    ⟨start, value, flag, hcs, hfind, -⟩ | ⟨c, rest, hcs, hclassify⟩
  · exact absurd hhead hno
  · exact absurd (meansHelp_of_find? hfind).2 h
  · exact absurd hhyphen hne
  · rw [hcs] at h
    exact absurd (MeansHelp.assignment hfind) h
  · rcases candidates_innerFlags hcs with ⟨hhelp, -⟩ | ⟨-, hnil⟩
    · exact absurd hhelp h
    · rw [hclassify, hnil, ofCandidates]

theorem classify_of_isPlain (h : IsPlain argument.toList) :
    classify innerFlags argument = .ok .plain := by
  rcases h with hhead | hhyphen | ⟨hnot, hlooks⟩
  · rw [classify, if_pos hhead]
  · rw [classify]
    simp [hhyphen, find?_innerFlags]
  · by_cases hhead : argument.toList.head? = some '-'
    · by_cases hne : argument.toList = ['-']
      · rw [classify]
        simp [hne, find?_innerFlags]
      · rw [classify_of_not_meansHelp hnot hhead hne, if_pos hlooks]
    · rw [classify, if_pos hhead]

theorem classify_of_not_isPlain (h : ¬ IsPlain argument.toList) :
    classify innerFlags argument = .ok .unknownFlag ∨
      ∃ attached, classify innerFlags argument = .ok (.flag .help attached) := by
  simp only [IsPlain, not_or, not_and, not_not] at h
  obtain ⟨hhead, hne, hlooks⟩ := h
  by_cases hhelp : MeansHelp argument.toList
  · exact Or.inr (classify_of_meansHelp hhelp)
  · refine Or.inl ?_
    rw [classify_of_not_meansHelp hhelp hhead hne]
    exact if_neg (by simpa using hlooks hhelp)

/-- In the second round there are plain arguments, the help flag and unknown flags. -/
theorem classify_innerFlags_eq_ok {token : Token} (h : classify innerFlags argument = .ok token) :
    (token = .plain ∧ IsPlain argument.toList) ∨ token = .unknownFlag ∨
      ∃ attached, token = .flag .help attached := by
  by_cases hplain : IsPlain argument.toList
  · rw [classify_of_isPlain hplain] at h
    exact Or.inl ⟨(Except.ok.inj h).symm, hplain⟩
  · rcases classify_of_not_isPlain hplain with hunknown | ⟨attached, hhelp⟩
    · rw [hunknown] at h
      exact Or.inr (Or.inl (Except.ok.inj h).symm)
    · rw [hhelp] at h
      exact Or.inr (Or.inr ⟨attached, (Except.ok.inj h).symm⟩)

/-! ### Flags in use -/

theorem useFlags_eq_ok_iff {asked : Option Name} :
    useFlags edition asked flags flag attached = .ok used ↔
      flagsOf edition flags flag attached = .ok used ∧ Flag.help ∉ used.flags := by
  rw [useFlags]
  cases flagsOf edition flags flag attached with
  | error complaint => simp
  | ok found =>
      by_cases hmem : Flag.help ∈ found.flags
      · simp only [if_pos hmem, reduceCtorEq, false_iff, not_and, not_not, Except.ok.injEq]
        rintro rfl
        exact hmem
      · simp only [if_neg hmem, Except.ok.injEq]
        refine ⟨?_, And.left⟩
        rintro rfl
        exact ⟨rfl, hmem⟩

/-- **How letters behind a flag come to be used**: the first of them ends the run and is left over
with the rest, or it is a flag and the rest is used behind it. -/
theorem letterFlags_cons_eq_ok {letter : Char} {rest : List Char}
    (h : letterFlags edition flags flag (letter :: rest) = .ok used) :
    (flags.find? ['-', letter] = none ∧
        used = ⟨[flag], [String.ofList ('-' :: letter :: rest)]⟩) ∨
      ∃ next more, flags.find? ['-', letter] = some next ∧
        letterFlags edition flags next rest = .ok more ∧
        used = { more with flags := flag :: more.flags } := by
  rw [letterFlags] at h
  split at h
  · rename_i hnone
    split at h
    · exact Or.inl ⟨hnone, (Except.ok.inj h).symm⟩
    · simp at h
  rename_i next hnext
  split at h
  · simp at h
  cases hmore : letterFlags edition flags next rest with
  | error complaint => simp [hmore, Except.map] at h
  | ok more =>
      rw [hmore] at h
      exact Or.inr ⟨next, more, hnext, hmore, (Except.ok.inj h).symm⟩

/-- The flag in front of the letters is used along with theirs. -/
theorem mem_of_letterFlags {letters : List Char}
    (h : letterFlags edition flags flag letters = .ok used) : flag ∈ used.flags := by
  cases letters with
  | nil =>
      obtain rfl := Except.ok.inj h
      simp
  | cons letter rest =>
      rcases letterFlags_cons_eq_ok h with ⟨-, rfl⟩ | ⟨next, more, -, -, rfl⟩
      · simp
      · simp

/-- Whatever is attached to a flag, that flag is used. -/
theorem mem_of_flagsOf (h : flagsOf edition flags flag attached = .ok used) :
    flag ∈ used.flags := by
  unfold flagsOf at h
  split at h
  · obtain rfl := Except.ok.inj h
    simp
  · simp at h
  · simp at h
  · simp at h
  · split at h
    · exact mem_of_letterFlags h
    · simp at h
  · exact mem_of_letterFlags h

/-- The help flag ends the reading, with whatever is attached to it. -/
theorem useFlags_help (edition : Edition) (asked : Option Name) (flags : Spellings)
    (attached : Attached) (used : Used) :
    useFlags edition asked flags .help attached ≠ .ok used := by
  intro h
  obtain ⟨hused, hhelp⟩ := useFlags_eq_ok_iff.1 h
  exact hhelp (mem_of_flagsOf hused)

/-- Other flags than that of help ask for the log. -/
theorem contains_verbose_of_useFlags {asked : Option Name}
    (h : useFlags edition asked flags flag attached = .ok used) :
    used.flags.contains .verbose = true := by
  cases flag with
  | help => exact absurd h (useFlags_help _ _ _ _ _)
  | verbose => exact List.contains_iff_mem.2 (mem_of_flagsOf (useFlags_eq_ok_iff.1 h).1)

/-! ### Single arguments in the first round -/

theorem find?_outerFlags (cs : List Char) :
    outerFlags.find? cs =
      if cs = ['-', 'h'] ∨ cs = ['-', '-', 'h', 'e', 'l', 'p'] then some .help
      else if cs = ['-', '-', 'v', 'e', 'r', 'b', 'o', 's', 'e'] ∨ cs = ['-', 'v'] then
        some .verbose
      else none := by
  have hletter : "-h".toList = ['-', 'h'] := rfl
  have hword : "--help".toList = ['-', '-', 'h', 'e', 'l', 'p'] := rfl
  have hletter' : "-v".toList = ['-', 'v'] := rfl
  have hword' : "--verbose".toList = ['-', '-', 'v', 'e', 'r', 'b', 'o', 's', 'e'] := rfl
  simp only [Spellings.find?, outerFlags, List.find?_cons, hletter, hword, hletter', hword']
  grind

theorem eq_of_find?_verbose (h : outerFlags.find? cs = some .verbose) :
    cs = ['-', '-', 'v', 'e', 'r', 'b', 'o', 's', 'e'] ∨ cs = ['-', 'v'] := by
  rw [find?_outerFlags] at h
  split at h
  · simp at h
  · split at h
    · assumption
    · simp at h

/-- The letter of the verbose flag may stand behind that flag any number of times. -/
theorem letterFlags_replicate (edition : Edition) (n : ℕ) :
    letterFlags edition outerFlags .verbose (List.replicate n 'v') =
      .ok ⟨List.replicate (n + 1) .verbose, []⟩ := by
  induction n with
  | zero => rfl
  | succ n ih =>
      have hfind : outerFlags.find? ['-', 'v'] = some .verbose := rfl
      have hvalue (value : List Char) : List.replicate n 'v' ≠ '=' :: value := by
        cases n with
        | zero => simp
        | succ n => simp [List.replicate_succ]
      rw [List.replicate_succ, letterFlags]
      simp only [hfind]
      split
      · rename_i value hrest
        exact absurd hrest (hvalue value)
      · rw [ih]
        rfl

/-- Letters behind the verbose flag have to be that flag again. -/
theorem eq_replicate_of_letterFlags {letters : List Char}
    (h : letterFlags edition outerFlags .verbose letters = .ok used)
    (hhelp : Flag.help ∉ used.flags) (hleft : used.left = []) :
    letters = List.replicate letters.length 'v' := by
  induction letters generalizing used with
  | nil => rfl
  | cons letter rest ih =>
      rcases letterFlags_cons_eq_ok h with ⟨-, rfl⟩ | ⟨next, more, hnext, hmore, rfl⟩
      · simp at hleft
      · simp only [List.mem_cons, not_or] at hhelp
        cases next with
        | help => exact absurd (mem_of_letterFlags hmore) hhelp.2
        | verbose =>
            obtain rfl : letter = 'v' := by simpa using eq_of_find?_verbose hnext
            exact congrArg ('v' :: ·) (ih hmore hhelp.2 hleft)

/-- What may be attached to the verbose flag. -/
def AttachesVerbose (edition : Edition) (attached : Attached) : Prop :=
  attached = .nothing ∨
    ∃ n, attached = .letters (List.replicate (n + 1) 'v') ∨
      edition = .early ∧ attached = .assigned (List.replicate (n + 1) 'v')

/-- The verbose flag is used with such an attachment only, unless something is left over. -/
theorem attachesVerbose_of_useFlags
    (h : useFlags edition none outerFlags .verbose attached = .ok used) (hleft : used.left = []) :
    AttachesVerbose edition attached := by
  obtain ⟨hused, hhelp⟩ := useFlags_eq_ok_iff.1 h
  cases attached with
  | nothing => exact Or.inl rfl
  | value text => simp [flagsOf] at hused
  | assigned text =>
      cases text with
      | nil => simp [flagsOf] at hused
      | cons letter rest =>
          cases edition with
          | early =>
              have hletters := eq_replicate_of_letterFlags hused hhelp hleft
              exact Or.inr ⟨rest.length, Or.inr ⟨rfl, congrArg _ hletters⟩⟩
          | late => simp [flagsOf] at hused
  | letters text =>
      cases text with
      | nil => simp [flagsOf] at hused
      | cons letter rest =>
          have hletters := eq_replicate_of_letterFlags hused hhelp hleft
          exact Or.inr ⟨rest.length, Or.inl (congrArg _ hletters)⟩

theorem AttachesVerbose.useFlags (h : AttachesVerbose edition attached) :
    ∃ used, useFlags edition none outerFlags .verbose attached = .ok used ∧ used.left = [] := by
  rcases h with rfl | ⟨n, rfl | ⟨rfl, rfl⟩⟩
  · exact ⟨⟨[.verbose], []⟩, rfl, rfl⟩
  · exact ⟨_, useFlags_eq_ok_iff.2 ⟨letterFlags_replicate edition (n + 1), by simp⟩, rfl⟩
  · exact ⟨_, useFlags_eq_ok_iff.2 ⟨letterFlags_replicate .early (n + 1), by simp⟩, rfl⟩

/-- An argument is a flag as a spelling, as one with an equals sign behind it, or by its one
candidate. -/
theorem classify_eq_flag (h : classify flags argument = .ok (.flag flag attached)) :
    (flags.find? argument.toList = some flag ∧ attached = .nothing) ∨
      (∃ start value, argument.toList = start ++ '=' :: value ∧ flags.find? start = some flag ∧
        attached = attachedTo start (some value)) ∨
      ∃ c rest spelling, argument.toList = '-' :: c :: rest ∧
        candidates flags argument.toList = [(spelling, flag, attached)] := by
  rcases classify_cases flags argument with ⟨-, hclassify⟩ | ⟨found, hfind, hclassify⟩ |
    ⟨-, hclassify⟩ | ⟨start, value, found, hcs, hfind, hclassify⟩ | ⟨c, rest, hcs, hclassify⟩
  · simp [hclassify] at h
  · rw [hclassify] at h
    obtain ⟨rfl, rfl⟩ := Token.flag.inj (Except.ok.inj h)
    exact Or.inl ⟨hfind, rfl⟩
  · simp [hclassify] at h
  · rw [hclassify] at h
    obtain ⟨rfl, rfl⟩ := Token.flag.inj (Except.ok.inj h)
    exact Or.inr (Or.inl ⟨start, value, hcs, hfind, rfl⟩)
  · rw [hclassify] at h
    unfold ofCandidates at h
    split at h
    · rename_i hone
      obtain ⟨rfl, rfl⟩ := Token.flag.inj (Except.ok.inj h)
      exact Or.inr (Or.inr ⟨c, rest, _, hcs, hone⟩)
    · split at h <;> simp at h
    · simp at h

theorem candidates_outerFlags_hyphens (rest : List Char) :
    candidates outerFlags ('-' :: '-' :: rest) =
      (if MeansHelp ('-' :: '-' :: rest) then
        [("--help", .help, attachedTo (('-' :: '-' :: rest).takeWhile (· != '='))
          (splitAssignment ('-' :: '-' :: rest)).2)]
      else []) ++
      if ('-' :: '-' :: rest).takeWhile (· != '=') <+:
          ['-', '-', 'v', 'e', 'r', 'b', 'o', 's', 'e'] then
        [("--verbose", .verbose, attachedTo (('-' :: '-' :: rest).takeWhile (· != '='))
          (splitAssignment ('-' :: '-' :: rest)).2)]
      else [] := by
  simp only [candidates_hyphens, meansHelp_hyphens_iff, takeWhile_assignment_hyphens]
  by_cases hhelp : '-' :: '-' :: rest.takeWhile (· != '=') <+: ['-', '-', 'h', 'e', 'l', 'p'] <;>
    by_cases hverbose : '-' :: '-' :: rest.takeWhile (· != '=') <+:
      ['-', '-', 'v', 'e', 'r', 'b', 'o', 's', 'e'] <;>
    simp_all [outerFlags]

theorem candidates_outerFlags_letter {c : Char} (hc : c ≠ '-') (rest : List Char) :
    candidates outerFlags ('-' :: c :: rest) =
      if c = 'h' then [("-h", .help, .letters rest)]
      else if c = 'v' then [("-v", .verbose, .letters rest)]
      else [] := by
  rw [candidates_letter outerFlags hc]
  by_cases hh : c = 'h'
  · subst hh
    rfl
  · by_cases hv : c = 'v'
    · subst hv
      rfl
    · simp [outerFlags, hh, hv, Ne.symm hh, Ne.symm hv]

/-- An argument that does not mean the help flag has one candidate at most. -/
theorem candidates_outerFlags_of_not_meansHelp {c : Char} {rest : List Char}
    (hcs : cs = '-' :: c :: rest) (h : ¬ MeansHelp cs) :
    candidates outerFlags cs = [] ∨
      ∃ spelling attached, candidates outerFlags cs = [(spelling, .verbose, attached)] := by
  subst hcs
  by_cases hc : c = '-'
  · subst hc
    rw [candidates_outerFlags_hyphens, if_neg h]
    split
    · exact Or.inr ⟨_, _, rfl⟩
    · exact Or.inl rfl
  · rw [candidates_outerFlags_letter hc, if_neg ((meansHelp_letter_iff hc).not.1 h)]
    split
    · exact Or.inr ⟨_, _, rfl⟩
    · exact Or.inl rfl

/-- An argument that does not mean the help flag is told apart in the first round as well. -/
theorem classify_outerFlags_ok (h : ¬ MeansHelp argument.toList) :
    ∃ token, classify outerFlags argument = .ok token := by
  rcases classify_cases outerFlags argument with ⟨-, hclassify⟩ | ⟨flag, -, hclassify⟩ |
    ⟨-, hclassify⟩ | ⟨start, value, flag, -, -, hclassify⟩ | ⟨c, rest, hcs, hclassify⟩
  · exact ⟨_, hclassify⟩
  · exact ⟨_, hclassify⟩
  · exact ⟨_, hclassify⟩
  · exact ⟨_, hclassify⟩
  · rcases candidates_outerFlags_of_not_meansHelp hcs h with hnil | ⟨spelling, attached, hone⟩
    · rw [hclassify, hnil, ofCandidates]
      split
      · exact ⟨_, rfl⟩
      · exact ⟨_, rfl⟩
    · rw [hone] at hclassify
      exact ⟨_, hclassify⟩

/-- Behind two hyphens only a value is attached, so an argument without one is all spelling. -/
theorem takeWhile_of_attachedTo {rest : List Char}
    (h : attachedTo (('-' :: '-' :: rest).takeWhile (· != '='))
      (splitAssignment ('-' :: '-' :: rest)).2 = attached)
    (huse : AttachesVerbose edition attached) :
    ('-' :: '-' :: rest).takeWhile (· != '=') = '-' :: '-' :: rest := by
  subst h
  rw [takeWhile_assignment_hyphens] at huse
  cases hvalue : (splitAssignment ('-' :: '-' :: rest)).2 with
  | none =>
      rw [← fst_splitAssignment]
      exact (eq_of_splitAssignment_none (Prod.ext rfl hvalue)).symm
  | some value => simp [AttachesVerbose, hvalue, attachedTo] at huse

theorem isVerbose_of_prefix {rest : List Char}
    (hbegins : '-' :: '-' :: rest <+: ['-', '-', 'v', 'e', 'r', 'b', 'o', 's', 'e'])
    (hhelp : ¬ '-' :: '-' :: rest <+: ['-', '-', 'h', 'e', 'l', 'p']) :
    IsVerbose edition ('-' :: '-' :: rest) := by
  cases rest with
  | nil => exact absurd (by decide) hhelp
  | cons c rest =>
      obtain ⟨tail, htail⟩ := hbegins
      obtain ⟨rfl, -⟩ : c = 'v' ∧ rest ++ tail = ['e', 'r', 'b', 'o', 's', 'e'] := by
        simpa using htail
      exact Or.inl ⟨⟨rest, rfl⟩, ⟨tail, htail⟩⟩

/-- What has the verbose flag as its one candidate, with nothing attached but that flag again. -/
theorem isVerbose_of_candidates {spelling : String} {c : Char} {rest : List Char}
    (hcs : cs = '-' :: c :: rest)
    (h : candidates outerFlags cs = [(spelling, .verbose, attached)])
    (huse : AttachesVerbose edition attached) : IsVerbose edition cs := by
  subst hcs
  by_cases hc : c = '-'
  · subst hc
    rw [candidates_outerFlags_hyphens] at h
    by_cases hhelp : MeansHelp ('-' :: '-' :: rest)
    · simp [hhelp] at h
    · rw [if_neg hhelp, List.nil_append] at h
      rw [meansHelp_hyphens_iff] at hhelp
      split at h
      · rename_i hbegins
        obtain ⟨-, hpair⟩ := Prod.mk.inj (List.singleton_inj.1 h)
        have htake := takeWhile_of_attachedTo (Prod.mk.inj hpair).2 huse
        rw [htake] at hbegins hhelp
        exact isVerbose_of_prefix hbegins hhelp
      · simp at h
  · rw [candidates_outerFlags_letter hc] at h
    split at h
    · simp at h
    · split at h
      · rename_i hv
        subst hv
        obtain ⟨-, rfl⟩ : spelling = "-v" ∧ attached = .letters rest := by
          simpa [eq_comm] using h
        obtain ⟨n, rfl⟩ : ∃ n, rest = List.replicate (n + 1) 'v' := by
          simpa [AttachesVerbose] using huse
        exact Or.inr ⟨n + 1, Or.inl rfl⟩
      · simp at h

/-- **What is used as the verbose flag** is one, if nothing is left over. -/
theorem isVerbose_of_useFlags (h : classify outerFlags argument = .ok (.flag flag attached))
    (hused : useFlags edition none outerFlags flag attached = .ok used) (hleft : used.left = []) :
    IsVerbose edition argument.toList := by
  cases flag with
  | help => exact absurd hused (useFlags_help _ _ _ _ _)
  | verbose =>
      have huse := attachesVerbose_of_useFlags hused hleft
      rcases classify_eq_flag h with ⟨hfind, -⟩ | ⟨start, value, hcs, hfind, rfl⟩ |
        ⟨c, rest, spelling, hcs, hone⟩
      · rcases eq_of_find?_verbose hfind with hword | hletter
        · rw [hword]
          exact Or.inl ⟨⟨_, rfl⟩, List.prefix_refl _⟩
        · exact Or.inr ⟨0, Or.inl hletter⟩
      · rcases eq_of_find?_verbose hfind with rfl | rfl
        · -- Behind the word stands a value, which the flag does not take.
          simp [AttachesVerbose, attachedTo] at huse
        · obtain ⟨rfl, n, rfl⟩ : edition = .early ∧ ∃ n, value = List.replicate (n + 1) 'v' := by
            simpa [AttachesVerbose, attachedTo] using huse
          refine Or.inr ⟨n, Or.inr ⟨rfl, ?_⟩⟩
          rw [hcs]
          rfl
      · exact isVerbose_of_candidates hcs hone huse

/-- **The verbose flag** in each of its spellings is taken for that flag, with nothing attached
that it could not be used with. -/
theorem classify_of_isVerbose (h : IsVerbose edition argument.toList) :
    ∃ attached, classify outerFlags argument = .ok (.flag .verbose attached) ∧
      AttachesVerbose edition attached := by
  rcases h with ⟨hstart, hbegins⟩ | ⟨n, hletters | ⟨hedition, hassigned⟩⟩
  · -- The beginnings of the word one by one; those without its first letter are ruled out.
    refine ⟨.nothing, ?_, Or.inl rfl⟩
    rw [← String.ofList_toList (s := argument)]
    rw [← List.mem_inits] at hbegins
    simp only [List.inits, List.map_cons, List.map_nil, List.mem_cons, List.not_mem_nil, or_false]
      at hbegins
    rcases hbegins with hcs | hcs | hcs | hcs | hcs | hcs | hcs | hcs | hcs | hcs <;>
      rw [hcs] at hstart ⊢ <;> first | exact absurd hstart (by decide) | rfl
  · cases n with
    | zero =>
        refine ⟨.nothing, ?_, Or.inl rfl⟩
        rw [classify]
        simp [hletters, find?_outerFlags]
    | succ n =>
        refine ⟨.letters (List.replicate (n + 1) 'v'), ?_, Or.inr ⟨n, Or.inl rfl⟩⟩
        have hcs : argument.toList = '-' :: 'v' :: 'v' :: List.replicate n 'v' := hletters
        have hsplit : splitAssignment ('-' :: 'v' :: 'v' :: List.replicate n 'v') =
            ('-' :: 'v' :: 'v' :: List.replicate n 'v', none) := by
          have hnil : ('-' :: 'v' :: 'v' :: List.replicate n 'v').dropWhile (· != '=') = [] := by
            simp
          rw [splitAssignment, hnil]
        rw [classify, hcs, if_neg (by simp)]
        simp only [hsplit, candidates_outerFlags_letter (by decide : 'v' ≠ '-')]
        simp [find?_outerFlags, List.replicate_succ]
  · refine ⟨.assigned (List.replicate (n + 1) 'v'), ?_, Or.inr ⟨n, Or.inr ⟨hedition, rfl⟩⟩⟩
    have hsplit : splitAssignment ('-' :: 'v' :: '=' :: List.replicate (n + 1) 'v') =
        (['-', 'v'], some (List.replicate (n + 1) 'v')) := rfl
    rw [classify, hassigned, if_neg (by simp)]
    simp only [hsplit]
    simp [find?_outerFlags, attachedTo]

end Command

end NumericWire
