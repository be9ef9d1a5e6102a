import StackCalc.Calculator.Run
import StackCalc.CommandLine.Settings
import StackCalc.Listing
import StackCalc.Text.Basic

/-!
# StackCalc.Session — the program from its command line to its exit

A session reads its command line, finds out where its lines come from, and answers them in order.
Lines come from the command line, from standard input, or from a prompt: a prompt is
used when one is given that is not empty, and otherwise when both standard input and standard
output are terminals.

Lines that are asked for come one by one: the prompt is shown, the line typed at it is answered, and
the prompt is shown again, until typing ends.
-/

namespace StackCalc

open CommandLine (Settings Reading Task)

/-! ## Consoles -/

/-- How typing at a prompt ends. -/
inductive Ending
  | endOfInput
  | interrupt
deriving DecidableEq

/-- What surrounds a session. -/
structure Console where
  /-- The text on standard input. -/
  input : Text
  /-- Whether standard input is a terminal. -/
  inputIsTerminal : Bool
  /-- Whether standard output is a terminal. -/
  outputIsTerminal : Bool
  /-- The lines typed at prompts. -/
  typed : List Text
  /-- How typing ends. -/
  ending : Ending

/-! ## Asking for lines -/

/-- What a prompt meets. -/
inductive Reply
  /-- A line is typed. -/
  | line (text : Text)
  /-- Typing ends. -/
  | ended (ending : Ending)
deriving DecidableEq

/-- What prompts meet, one after the other. -/
def Console.replies (console : Console) : List Reply :=
  console.typed.map .line ++ [.ended console.ending]

/-- How far asking for lines has come. -/
@[ext]
structure Dialogue where
  /-- The prompts shown. -/
  prompts : List Text
  /-- The lines handed on. -/
  lines : List Text
  /-- How typing ended, if it has. -/
  ended? : Option Ending
deriving DecidableEq

namespace Dialogue

/-- The dialogue before the first prompt. -/
def opening : Dialogue := ⟨[], [], none⟩

/-- Show the prompt once: a line is handed on, and the end of typing is the end of the dialogue. -/
def ask (prompt : Text) (d : Dialogue) : Reply → Dialogue
  | .line text => { d with prompts := d.prompts ++ [prompt], lines := d.lines ++ [text] }
  | .ended ending => { d with prompts := d.prompts ++ [prompt], ended? := some ending }

/-- Ask again and again, until typing has ended or nothing more is met. -/
def askAll (prompt : Text) (d : Dialogue) : List Reply → Dialogue
  | [] => d
  | reply :: rest => if d.ended?.isSome then d else askAll prompt (d.ask prompt reply) rest

end Dialogue

/-- The dialogue that a prompt opens. -/
def Console.dialogue (console : Console) (prompt : Text) : Dialogue :=
  Dialogue.opening.askAll prompt console.replies

/-! ## Sources -/

/-- Where the lines of a session come from. -/
inductive Source
  /-- The command line holds them. -/
  | given (lines : List Text)
  /-- Standard input holds them. -/
  | input
  /-- They are asked for with a prompt. -/
  | prompted (prompt : Text)
deriving DecidableEq

/-- Where the lines come from; `terminals` tells whether both standard input and standard output
are terminals. -/
def CommandLine.Settings.source (s : Settings) (terminals : Bool) : Source :=
  match s.expressions?, s.prompt? with
  | some lines, _ => .given lines
  | none, some (c :: rest) => .prompted (c :: rest)
  | none, _ => if terminals then .prompted CommandLine.defaultPrompt else .input

namespace Source

/-- The lines, up to the end of the source. -/
def lines (console : Console) : Source → List Text
  | given lines => lines
  | input => Text.lines (Text.unifyLineEnds console.input)
  | prompted prompt => (console.dialogue prompt).lines

/-- The prompts shown. -/
def prompts (console : Console) : Source → List Text
  | prompted prompt => (console.dialogue prompt).prompts
  | _ => []

/-- The exit status, once all lines are answered: an interrupt is told apart from the end. -/
def status (console : Console) : Source → Nat
  | prompted prompt => if (console.dialogue prompt).ended? = some .interrupt then 1 else 0
  | _ => 0

end Source

/-! ## Answering lines -/

/-- What a session puts out for lines, and the calculator for the lines behind them. -/
structure Answer where
  /-- The calculator after the lines. -/
  calculator : Calculator
  /-- The lines for standard output. -/
  out : List Text
  /-- The lines for the error stream. -/
  err : List Text

/-- What comes before the first line is answered. -/
def CommandLine.Settings.head (s : Settings) : List Text :=
  match s.task with
  | .calculate => []
  | .listRules => Listing.rules
  | .listTokens => [Listing.tokenHead]

/-- Whether lines are read at all. -/
def CommandLine.Settings.readsLines (s : Settings) : Bool := s.task != .listRules

/-- The answer to lines. -/
def CommandLine.Settings.answer (s : Settings) (c : Calculator) (lines : List Text) : Answer :=
  match s.task with
  | .calculate =>
    let t := c.runLines s.verbose lines
    ⟨t.calculator, t.out.map Report.text, t.err.map Fault.trace⟩
  | .listRules => ⟨c, [], []⟩
  | .listTokens => ⟨c, lines.flatMap Listing.tokenRows, []⟩

/-! ## Sessions -/

/-- What a session leaves behind. -/
structure Session where
  /-- The exit status. -/
  status : Nat
  /-- The lines on standard output. -/
  out : List Text
  /-- The lines on the error stream. -/
  err : List Text
  /-- The prompts shown. -/
  prompts : List Text
deriving DecidableEq

namespace Session

/-- The session of a settled command line. -/
def ofSettings (s : Settings) (console : Console) : Session :=
  if s.readsLines then
    let source := s.source (console.inputIsTerminal && console.outputIsTerminal)
    let a := s.answer .fresh (source.lines console)
    ⟨source.status console, s.head ++ a.out, a.err, source.prompts console⟩
  else ⟨0, s.head, [], []⟩

/-- The session of a command line. -/
def run (words : List Text) (console : Console) : Session :=
  match Reading.ofTexts words with
  | .help => ⟨0, Listing.help, [], []⟩
  | .refused e => ⟨2, [], [e.report], []⟩
  | .accepted s => ofSettings s console

end Session

end StackCalc
