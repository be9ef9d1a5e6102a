import StackCalc.CommandLine.Order

/-!
# StackCalc.CommandLine.Settings — reading a command line

Orders take effect one after the other.  The first fault ends the reading, and so does the order
for help; words left over are a fault only when the end is reached.
-/

namespace StackCalc.CommandLine

/-- What is to be done with lines. -/
inductive Task
  /-- Run them on a calculator. -/
  | calculate
  /-- List the rules by which lines are read, and leave lines alone. -/
  | listRules
  /-- List their tokens. -/
  | listTokens
deriving DecidableEq

/-- What a command line asks for. -/
structure Settings where
  /-- Whether faults go to the error stream as well. -/
  verbose : Bool
  /-- The lines given as words. -/
  expressions? : Option (List Text)
  /-- The prompt. -/
  prompt? : Option Text
  /-- What is to be done with lines. -/
  task : Task
deriving DecidableEq

namespace Settings

/-- What an empty command line asks for. -/
def initial : Settings := ⟨false, none, none, .calculate⟩

/-- Whether the settings show that a flag which excludes others was given. -/
def gives (s : Settings) : Flag → Bool
  | .expression => s.expressions?.isSome
  | .prompt => s.prompt?.isSome
  | .rawGrammar => s.task = .listRules
  | .dump => s.task = .listTokens
  | _ => false

/-- The settings with an order in effect. -/
def set (s : Settings) : Order → Settings
  | .help => s
  | .verbose => { s with verbose := true }
  | .expression lines => { s with expressions? := some lines }
  | .prompt text => { s with prompt? := some text }
  | .rawGrammar => { s with task := .listRules }
  | .dump => { s with task := .listTokens }

/-- The settings with an order in effect, unless it is excluded by one before. -/
def add (s : Settings) (o : Order) : Except UsageError Settings :=
  match o.flag.rival? with
  | some rival => if s.gives rival then .error (.conflict o.flag rival) else .ok (s.set o)
  | none => .ok (s.set o)

end Settings

/-- What comes of reading a command line. -/
inductive Reading
  /-- The help is asked for. -/
  | help
  /-- The command line is wrong. -/
  | refused (e : UsageError)
  /-- The command line asks for something. -/
  | accepted (s : Settings)
deriving DecidableEq

namespace Reading

/-- The reading of events, given the settings and the words left over so far. -/
def ofEvents (s : Settings) (strays : List Text) : List Event → Reading
  | [] => if strays = [] then accepted s else refused (.unrecognised strays)
  | .order .help :: _ => help
  | .order o :: rest =>
    match s.add o with
    | .ok s' => ofEvents s' strays rest
    | .error e => refused e
  | .stray word :: rest => ofEvents s (strays ++ [word]) rest
  | .fault e :: _ => refused e

/-- The reading of the words of a command line. -/
def ofTexts (words : List Text) : Reading :=
  match Word.ofTexts words with
  | .ok ws => ofEvents .initial [] (Event.ofWords ws)
  | .error e => refused e

end Reading

end StackCalc.CommandLine
