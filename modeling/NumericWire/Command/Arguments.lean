import NumericWire.Command
/-!
# NumericWire.Command.Arguments

**The arguments of the command line.** They are read in two rounds. The first reads flags
up to the word of a command and leaves everything behind that word to the second, which
reads the arguments of the command and knows the help flag only.

In each round the arguments are first told apart (`Token`): what starts with a hyphen is a
flag, unless it looks like a negative number or has a space in it. A divider `--` ends the
flags, so everything behind it is plain. Then they are taken in order; what no one takes is
left over, and left-over arguments are refused at the end, after every other complaint.

Flags with one letter may share an argument. The rules for what else may stand in it have
two editions (`Edition`), and everything here is read by either of them.
-/

namespace NumericWire

namespace Command

/-! ### Flags -/

/-- What a flag asks for. -/
inductive Flag
  | help
  /-- The log of the command. -/
  | verbose
  deriving DecidableEq, Repr

namespace Flag

/-- How a complaint names a flag: by all of its spellings. -/
def label : Flag → String
  | help => "-h/--help"
  | verbose => "--verbose/-v"

end Flag

/-- Flags by their spellings, in the order in which a complaint lists them. -/
abbrev Spellings := List (String × Flag)

/-- The flags before the word of a command. -/
def outerFlags : Spellings :=
  [("-h", .help), ("--help", .help), ("--verbose", .verbose), ("-v", .verbose)]

/-- The flags behind the word of a command. -/
def innerFlags : Spellings := [("-h", .help), ("--help", .help)]

/-- The flag of a spelling. -/
def Spellings.find? (flags : Spellings) (spelling : List Char) : Option Flag :=
  (List.find? (fun (s, _) => s.toList = spelling) flags).map (·.2)

/-! ### Complaints -/

/-- Why arguments cannot be used. -/
inductive Complaint
  /-- The beginning of more than one flag. -/
  | ambiguous (argument : String) (spellings : List String)
  /-- A flag that takes no value is given one. -/
  | valueIgnored (flag : Flag) (value : String)
  | unknownCommand (word : String)
  | missing (label : String)
  /-- An argument that is read as a literal is none. -/
  | notLiteral (label text : String)
  | leftOver (arguments : List String)
  deriving DecidableEq, Repr

/-- What the user is told. -/
def Complaint.message : Complaint → String
  | ambiguous argument spellings =>
    s!"ambiguous option: {argument} could match " ++ ", ".intercalate spellings
  | valueIgnored flag value =>
    s!"argument {flag.label}: ignored explicit argument " ++ Text.quoted value
  | unknownCommand word =>
    "argument command: invalid choice: " ++ Text.quoted word ++ " (choose from " ++
      ", ".intercalate (Name.all.map fun name => Text.quoted name.text) ++ ")"
  | missing label => "the following arguments are required: " ++ label
  | notLiteral label text => s!"argument {label}: " ++ (Fault.notLiteral text).message
  | leftOver arguments => "unrecognized arguments: " ++ " ".intercalate arguments

/-- Why reading arguments ends early: a complaint, from the round of a command if that
round has begun, or a wish for help. -/
inductive Stop
  | refused (name : Option Name) (complaint : Complaint)
  | help
  deriving DecidableEq, Repr

/-! ### Telling arguments apart -/

/-- What is attached to a spelling in one argument. -/
inductive Attached
  | nothing
  /-- Behind the equals sign of a spelling with two hyphens. -/
  | value (text : List Char)
  /-- Behind the equals sign of a spelling with one hyphen. -/
  | assigned (text : List Char)
  /-- Behind a spelling with one hyphen, and no equals sign between them. -/
  | letters (text : List Char)
  deriving DecidableEq, Repr

/-- What an argument is taken for. -/
inductive Token
  | plain
  /-- The first `--`. -/
  | divider
  | flag (flag : Flag) (attached : Attached)
  | unknownFlag
  deriving DecidableEq, Repr

/-- Whether a text is a hyphen and digits of any script, with a point behind, before or
between which at least one digit follows. A line end behind it is overlooked. -/
def looksNegative : List Char → Bool
  | '-' :: rest =>
    let rest := if rest.getLast? = some '\n' then rest.dropLast else rest
    let isDigit := fun c => (Text.digitValue? c).isSome
    match rest.dropWhile isDigit with
    | [] => rest ≠ []
    | '.' :: fraction => fraction ≠ [] && fraction.all isDigit
    | _ => false
  | _ => false

/-- The text before the first equals sign, and the text behind it if there is one. -/
def splitAssignment (cs : List Char) : List Char × Option (List Char) :=
  match cs.dropWhile (· != '=') with
  | [] => (cs, none)
  | _ :: value => (cs.takeWhile (· != '='), some value)

/-- What is attached to a spelling by an equals sign, if there is one. -/
def attachedTo (spelling : List Char) : Option (List Char) → Attached
  | none => .nothing
  | some text => if ['-', '-'].isPrefixOf spelling then .value text else .assigned text

/-- The flags that an argument may mean by their beginning: those whose spelling starts
with it, for an argument with two hyphens, and else the one of its first letter. -/
def candidates (flags : Spellings) : List Char → List (String × Flag × Attached)
  | '-' :: '-' :: rest =>
    let (start, value) := splitAssignment ('-' :: '-' :: rest)
    (flags.filter fun (s, _) => start.isPrefixOf s.toList).map fun (s, flag) =>
      (s, flag, attachedTo start value)
  | '-' :: letter :: rest =>
    (flags.filter fun (s, _) => s.toList = ['-', letter]).map fun (s, flag) =>
      (s, flag, .letters rest)
  | _ => []

/-- What a single argument, no divider, is taken for. -/
def classify (flags : Spellings) (argument : String) : Except Complaint Token :=
  let cs := argument.toList
  if cs.head? ≠ some '-' then .ok .plain
  else
    match flags.find? cs with
    | some flag => .ok (.flag flag .nothing)
    | none =>
      if cs = ['-'] then .ok .plain
      else
        -- A whole spelling before an equals sign comes before the beginning of one.
        let (spelling, value) := splitAssignment cs
        match value, flags.find? spelling with
        | some value, some flag => .ok (.flag flag (attachedTo spelling (some value)))
        | _, _ =>
          match candidates flags cs with
          | [(_, flag, attached)] => .ok (.flag flag attached)
          | [] =>
            if looksNegative cs ∨ ' ' ∈ cs then .ok .plain else .ok .unknownFlag
          | several => .error (.ambiguous argument (several.map (·.1)))

/-- What each argument is taken for. -/
def tokens (flags : Spellings) : List String → Except Complaint (List (String × Token))
  | [] => .ok []
  | argument :: rest =>
    if argument = "--" then .ok ((argument, .divider) :: rest.map fun a => (a, .plain))
    else
      match classify flags argument with
      | .error complaint => .error complaint
      | .ok token => (tokens flags rest).map ((argument, token) :: ·)

/-! ### Flags in use -/

/-- The rules for flags that share an argument, as they were and as they are. -/
inductive Edition
  /-- Every letter has to be a flag. An equals sign behind the first one is passed over. -/
  | early
  /-- From the first letter on that is no flag, the argument is left over. A hyphen or an
  equals sign among the letters begins a value. -/
  | late
  deriving DecidableEq, Repr

/-- The flags of one argument, and what of the argument is left over. -/
structure Used where
  flags : List Flag
  left : List String
  deriving DecidableEq, Repr

/-- Reads the letters behind a flag as flags. A value among them is refused by the flag in
front of it. -/
def letterFlags (edition : Edition) (flags : Spellings) (flag : Flag) :
    List Char → Except Complaint Used
  | [] => .ok ⟨[flag], []⟩
  | letter :: rest =>
    match flags.find? ['-', letter] with
    | none =>
      if edition = .late ∧ letter ≠ '-' then
        .ok ⟨[flag], [String.ofList ('-' :: letter :: rest)]⟩
      else .error (.valueIgnored flag (String.ofList (letter :: rest)))
    | some next =>
      match edition, rest with
      | .late, '=' :: value => .error (.valueIgnored next (String.ofList value))
      | _, _ =>
        (letterFlags edition flags next rest).map fun used =>
          { used with flags := flag :: used.flags }

/-- Reads one argument as flags. -/
def flagsOf (edition : Edition) (flags : Spellings) (flag : Flag) :
    Attached → Except Complaint Used
  | .nothing => .ok ⟨[flag], []⟩
  | .value value => .error (.valueIgnored flag (String.ofList value))
  -- An equals sign with nothing behind it is a value in both editions.
  | .assigned [] | .letters [] => .error (.valueIgnored flag "")
  | .assigned text =>
    match edition with
    | .early => letterFlags .early flags flag text
    | .late => .error (.valueIgnored flag (String.ofList text))
  | .letters text => letterFlags edition flags flag text

/-- Uses the flags of one argument. A wish for help ends the reading. -/
def useFlags (edition : Edition) (name : Option Name) (flags : Spellings) (flag : Flag)
    (attached : Attached) : Except Stop Used :=
  match flagsOf edition flags flag attached with
  | .error complaint => .error (.refused name complaint)
  | .ok used => if .help ∈ used.flags then .error .help else .ok used

/-! ### The arguments of a command -/

/-- What a command wants behind its word. -/
structure Slot where
  label : String
  /-- Whether it wants one argument or all that stand together. -/
  many : Bool
  /-- Whether the argument has to be a literal. -/
  literal : Bool
  deriving DecidableEq, Repr

/-- What the commands want. -/
def Name.slot : Name → Slot
  | encode => ⟨"value", false, true⟩
  | decode => ⟨"wire", false, false⟩
  | pack => ⟨"value", false, true⟩
  | unpack => ⟨"hex", true, false⟩

/-- An argument that a command has taken. -/
inductive Argument
  | literal (q : Quantity)
  | text (s : String)
  deriving DecidableEq, Repr

/-- Reads an argument as what the slot wants. -/
def Slot.read (slot : Slot) (s : String) : Except Complaint Argument :=
  if slot.literal then
    match Quantity.ofLiteral? s with
    | some q => .ok (.literal q)
    | none => .error (.notLiteral slot.label s)
  else .ok (.text s)

/-- The text of an argument that is not read further. -/
def Argument.text? : Argument → Option String
  | text s => some s
  | literal _ => none

/-- A command from the arguments that it has taken, if it has taken what it wants. -/
def ofArguments? : Name → List Argument → Option Command
  | .encode, [.literal q] => some (encode q)
  | .decode, [.text s] => some (decode s)
  | .pack, [.literal q] => some (pack q)
  | .unpack, first :: rest => some (unpack ((first :: rest).filterMap Argument.text?))
  | _, _ => none

/-- How far a command is with its slot. -/
inductive Progress
  /-- Nothing has been taken. -/
  | waiting
  /-- The argument before has been taken, so a divider here belongs to it. -/
  | taking
  /-- Nothing more is taken. -/
  | done
  deriving DecidableEq, Repr

/-- A flag ends the arguments that stand together. -/
def Progress.interrupted : Progress → Progress
  | waiting => waiting
  | _ => done

/-- The state of the second round. -/
structure Round where
  progress : Progress
  taken : List Argument
  left : List String
  deriving DecidableEq, Repr

namespace Round

/-- Nothing has been read. -/
def start : Round := ⟨.waiting, [], []⟩

/-- Takes an argument into the slot. -/
def take (name : Name) (round : Round) (argument : String) : Except Stop Round :=
  match name.slot.read argument with
  | .error complaint => .error (.refused name complaint)
  | .ok value => .ok { round with progress := .taking, taken := round.taken ++ [value] }

/-- Leaves an argument over. -/
def leave (round : Round) (argument : String) (progress : Progress) : Round :=
  { round with progress := progress, left := round.left ++ [argument] }

/-- Reads one argument. A slot for one is done with the first argument and the divider
behind it. -/
def step (edition : Edition) (name : Name) (round : Round) :
    String × Token → Except Stop Round
  | (argument, .plain) =>
    match round.progress, name.slot.many with
    | .waiting, _ => round.take name argument
    | .taking, true => round.take name argument
    | .taking, false => .ok (round.leave argument .done)
    | .done, _ => .ok (round.leave argument .done)
  | (argument, .divider) =>
    match round.progress, name.slot.many with
    | .waiting, _ => .ok round
    | .taking, true => .ok round
    | .taking, false => .ok { round with progress := .done }
    | .done, _ => .ok (round.leave argument .done)
  | (argument, .unknownFlag) => .ok (round.leave argument round.progress.interrupted)
  | (_, .flag flag attached) =>
    match useFlags edition name innerFlags flag attached with
    | .error stop => .error stop
    | .ok used =>
      .ok { round with progress := round.progress.interrupted, left := round.left ++ used.left }

end Round

/-- The second round: reads the arguments of a command, and what is left over of them. -/
def readArguments (edition : Edition) (name : Name) (arguments : List String) :
    Except Stop (Command × List String) :=
  match tokens innerFlags arguments with
  | .error complaint => .error (.refused name complaint)
  | .ok tokens =>
    match tokens.foldlM (Round.step edition name) Round.start with
    | .error stop => .error stop
    | .ok round =>
      match ofArguments? name round.taken with
      | none => .error (.refused name (.missing name.slot.label))
      | some command => .ok (command, round.left)

/-! ### The first round -/

/-- What the arguments of the command line ask for. -/
structure Request where
  command : Command
  /-- Whether the log of the command is wanted. -/
  verbose : Bool
  deriving DecidableEq, Repr

/-- Reads the word of a command and everything behind it; `left` is left over so far, and
`verbose` tells whether the flag has been used. -/
def readCommand (edition : Edition) (verbose : Bool) (left : List String) (word : String)
    (rest : List String) : Except Stop Request :=
  match Name.ofText? word with
  | none => .error (.refused none (.unknownCommand word))
  | some name =>
    match readArguments edition name rest with
    | .error stop => .error stop
    | .ok (command, more) =>
      if left ++ more = [] then .ok ⟨command, verbose⟩
      else .error (.refused none (.leftOver (left ++ more)))

/-- Reads flags up to the word of a command, which may be a divider with something behind
it. -/
def readFlags (edition : Edition) (verbose : Bool) (left : List String) :
    List (String × Token) → Except Stop Request
  | [] => .error (.refused none (.missing "command"))
  | (word, .plain) :: rest => readCommand edition verbose left word (rest.map (·.1))
  | (_, .divider) :: [] => .error (.refused none (.missing "command"))
  | (word, .divider) :: rest => readCommand edition verbose left word (rest.map (·.1))
  | (argument, .unknownFlag) :: rest => readFlags edition verbose (left ++ [argument]) rest
  | (_, .flag flag attached) :: rest =>
    match useFlags edition none outerFlags flag attached with
    | .error stop => .error stop
    | .ok used =>
      readFlags edition (verbose || used.flags.contains .verbose) (left ++ used.left) rest

/-- What the arguments of the command line ask for. -/
def ofArguments (edition : Edition) (arguments : List String) : Except Stop Request :=
  match tokens outerFlags arguments with
  | .error complaint => .error (.refused none complaint)
  | .ok tokens => readFlags edition false [] tokens

end Command

end NumericWire
