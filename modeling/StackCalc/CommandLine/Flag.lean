import StackCalc.Text.Quoted

/-!
# StackCalc.CommandLine.Flag — flags and what can be wrong with their use

Every flag has a short and a long spelling.  `-e` and `-p` take a value; `-e` and `-p` exclude each
other, and so do `-G` and `-D`.
-/

namespace StackCalc.CommandLine

/-- The flags of the command line. -/
inductive Flag
  /-- Print the help and end. -/
  | help
  /-- Put faults on the error stream as well. -/
  | verbose
  /-- Take the words that follow as lines. -/
  | expression
  /-- Ask for lines with a prompt. -/
  | prompt
  /-- List the rules by which lines are read. -/
  | rawGrammar
  /-- List the tokens of lines. -/
  | dump
deriving DecidableEq

namespace Flag

/-- All flags, in the order of the help. -/
def all : List Flag := [help, verbose, expression, prompt, rawGrammar, dump]

/-- The letter of the short spelling. -/
def letter : Flag → Char
  | help => 'h'
  | verbose => 'v'
  | expression => 'e'
  | prompt => 'p'
  | rawGrammar => 'G'
  | dump => 'D'

/-- The short spelling. -/
def short (f : Flag) : Text := ['-', f.letter]

/-- The long spelling. -/
def long : Flag → Text
  | help => "--help".toList
  | verbose => "--verbose".toList
  | expression => "--expression".toList
  | prompt => "--prompt".toList
  | rawGrammar => "--raw-grammar".toList
  | dump => "--dump".toList

/-- A flag as messages name it. -/
def name (f : Flag) : Text := f.short ++ '/' :: f.long

/-- The flag that a word spells, short or long. -/
def ofSpelling? (word : Text) : Option Flag :=
  all.find? fun f => word == f.short || word == f.long

/-- The flag of a letter. -/
def ofLetter? (c : Char) : Option Flag := all.find? fun f => c == f.letter

/-- The flags whose long spelling begins with a text. -/
def ofBeginning (beginning : Text) : List Flag :=
  all.filter fun f => beginning.isPrefixOf f.long

/-- The flag that may not be given together with a flag. -/
def rival? : Flag → Option Flag
  | expression => some prompt
  | prompt => some expression
  | rawGrammar => some dump
  | dump => some rawGrammar
  | _ => none

end Flag

/-- What is wrong with a command line. -/
inductive UsageError
  /-- A word abbreviates more than one flag. -/
  | ambiguous (word : Text) (candidates : List Flag)
  /-- A value stands with a flag that takes none. -/
  | ignoredValue (flag : Flag) (value : Text)
  /-- A flag was given after one that excludes it. -/
  | conflict (later earlier : Flag)
  /-- Words were left over. -/
  | unrecognised (words : List Text)
deriving DecidableEq

namespace UsageError

/-- The wording of a usage error. -/
def message : UsageError → Text
  | ambiguous word candidates =>
    "ambiguous option: ".toList ++ word ++ " could match ".toList ++
      ", ".toList.intercalate (candidates.map Flag.long)
  | ignoredValue flag value =>
    "argument ".toList ++ flag.name ++ ": ignored explicit argument ".toList ++ Text.quote value
  | conflict later earlier =>
    "argument ".toList ++ later.name ++ ": not allowed with argument ".toList ++ earlier.name
  | unrecognised words => "unrecognized arguments: ".toList ++ [' '].intercalate words

/-- A usage error as it is put on the error stream. -/
def report (e : UsageError) : Text := "srpn: error: ".toList ++ e.message

end UsageError

end StackCalc.CommandLine
