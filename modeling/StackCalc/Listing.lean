import StackCalc.Line.Tokens
import StackCalc.Meaning
import StackCalc.Text.Basic
import StackCalc.Text.Quoted

/-!
# StackCalc.Listing — the help, the rules of lines and the tokens of lines, as lists

* `help` is the text of the help.
* `rules` lists the rules by which a line is normalized, in order, each as a regular expression
  and what takes the place of a match, and last the expression for operands.
* `tokenRows` lists tokens with their kind and the number of operands that they take.
-/

namespace StackCalc.Listing

/-- Fields of a row with tabs between. -/
def row (fields : List Text) : Text := ['\t'].intercalate fields

/-! ## Help -/

/-- The lines of the help. -/
def help : List Text :=
  ["usage: srpn [-h] [-v] [-e ... | -p [PROMPT]] [-G | -D]",
    "",
    "Saturated RPN calculator",
    "",
    "options:",
    "  -h, --help            show this help message and exit",
    "  -v, --verbose",
    "  -e ..., --expression ...",
    "  -p [PROMPT], --prompt [PROMPT]",
    "  -G, --raw-grammar",
    "  -D, --dump"].map String.toList

/-! ## Rules -/

/-- What takes the place of a match. -/
inductive Replacement
  /-- A text, in which the match may be named. -/
  | text (template : Text)
  /-- The result of a function of the match. -/
  | function (name : Text)

/-- A replacement as a field. -/
def Replacement.field : Replacement → Text
  | text template => Text.quote template
  | function name => name ++ "()".toList

/-- The rules by which a line is normalized, in order. -/
def substitutions : List (Text × Replacement) :=
  [("\\#.*\\#".toList, .text []),
    ("(?<operator>[+/*^%])(?!=)".toList, .text " \\g<operator> ".toList),
    ("(?<compound>[+\\-/*^%]=)".toList, .text " \\g<compound> ".toList),
    ("(?<letters>[a-zA-Z]+)".toList, .function "_pad_letters".toList),
    ("[\\ \\t\\n\\x0B\\f\\r]+".toList, .text [' '])]

/-- The form of operands. -/
def operandPattern : Text := "(?<sign>[+\\-]?)0*(?<__digits__>\\d+)".toList

/-- The rows of the list of rules. -/
def rules : List Text :=
  substitutions.map (fun (pattern, replacement) => row [Text.quote pattern, replacement.field])
    ++ [Text.quote operandPattern]

/-! ## Tokens -/

/-- The head of the list of tokens. -/
def tokenHead : Text := row (["<kind>", "<repr(token)>", "<arity>"].map String.toList)

/-- The field for a number that does not apply. -/
def noNumber : Text := "None".toList

/-- The row of a token. -/
def tokenRow (token : Text) : Text :=
  match Meaning.ofToken? token with
  | some (.operand _) => row ["operand".toList, Text.quote token, noNumber]
  | some (.instruction i) => row ["command".toList, Text.quote token, Text.decimal i.arity]
  | none => row ["unknown".toList, Text.quote token, noNumber]

/-- The rows of the tokens of a line. -/
def tokenRows (line : Text) : List Text := (Line.tokens line).map tokenRow

end StackCalc.Listing
