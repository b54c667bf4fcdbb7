import NumericWire.Command.Arguments
import NumericWire.Command.Log
import NumericWire.Settings.Environment
/-!
# NumericWire.Command.Line

**The command line** as a function: from arguments and environment to an exit status, a text
and what is remarked beside it. Arguments that cannot be used come first (status 2), then
settings that cannot be read and commands that fail (status 1). Settings are read for every
command, also for those that do not depend on them.

The log goes where complaints go, in front of them. It is written only if a flag asks for it
and the arguments can be used, and it changes neither the status nor the text.
-/

namespace NumericWire

namespace Command

/-- What is said beside the output. -/
inductive Remark
  /-- An event of the log. -/
  | event (event : Event)
  /-- What is said about a failure, in one line. -/
  | complaint (line : String)
  deriving DecidableEq, Repr

/-- A remark in a line of its own. -/
def Remark.text : Remark → String
  | event e => e.text
  | complaint line => line

/-- How the command line ends. -/
structure Answer where
  status : Nat
  /-- What is printed, line ends included. -/
  output : String
  /-- What is said beside it, in order. -/
  remarks : List Remark
  deriving DecidableEq, Repr

/-- An answer with other remarks in front of its own. -/
def Answer.after (answer : Answer) (remarks : List Remark) : Answer :=
  { answer with remarks := remarks ++ answer.remarks }

@[simp] theorem Answer.after_nil (answer : Answer) : answer.after [] = answer := rfl

namespace Line

/-- The name of the program. -/
def programName : String := "pgnumeric"

/-- The program and, in the round of a command, its word. -/
def speaker : Option Name → String
  | none => programName
  | some name => programName ++ " " ++ name.text

/-- The last line of a text behind which a line feed is printed. A carriage return at the
very end belongs to that line feed. -/
def lastLine (s : String) : String :=
  let reversed := match s.toList.reverse with
    | '\r' :: before => before
    | reversed => reversed
  String.ofList (reversed.takeWhile fun c => !Text.isLineBreak c).reverse

/-- What the help flag prints, in short. The full text, which is fitted to the width of the
terminal, is left out. -/
def helpText : String :=
  s!"usage: {programName} [-h] [--verbose] (encode | decode | pack | unpack) ...\n"

/-- The answer of a command in an environment, without its log. -/
def execute (environment : Environment) (command : Command) : Answer :=
  match Settings.ofEnvironment environment with
  | .error fault => ⟨1, "", [.complaint ("Error: " ++ fault.message)]⟩
  | .ok settings =>
    match command.run settings with
    | .error fault => ⟨1, "", [.complaint ("Error: " ++ fault.message)]⟩
    | .ok text => ⟨0, text ++ "\n", []⟩

/-- The log of a command in an environment. -/
def log (environment : Environment) (command : Command) : List Event :=
  match Settings.ofEnvironment environment with
  | .error fault => [.failed command.name fault]
  | .ok settings =>
    match command.run settings with
    | .error fault => command.events settings ++ [.failed command.name fault]
    | .ok _ => command.events settings

/-- Events as remarks, if they are wanted. -/
def logged (verbose : Bool) (events : List Event) : List Remark :=
  if verbose then events.map .event else []

@[simp] theorem logged_false (events : List Event) : logged false events = [] := rfl

/-- The answer of the command line. -/
def answer (edition : Edition) (environment : Environment) (arguments : List String) : Answer :=
  match ofArguments edition arguments with
  | .error .help => ⟨0, helpText, []⟩
  | .error (.refused name complaint) =>
    ⟨2, "", [.complaint (lastLine (speaker name ++ ": error: " ++ complaint.message))]⟩
  | .ok ⟨command, verbose⟩ =>
    (execute environment command).after (logged verbose (log environment command))

end Line

end Command

end NumericWire
