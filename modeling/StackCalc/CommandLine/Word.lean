import StackCalc.CommandLine.Flag
import StackCalc.Text.Basic

/-!
# StackCalc.CommandLine.Word — what each word of a command line is

Words are told apart before any flag takes effect, from left to right:

* a word that does not begin with a minus is plain, and so is the minus alone;
* a word that spells a flag, or begins with a short flag, or abbreviates one long flag is a flag
  word; text may be attached to it with `=`, and to a short flag also without;
* of what is left, negative numbers and words with a space are plain, and the rest is unknown;
* the first `--` is a separator, and behind it every word is plain.
-/

namespace StackCalc.CommandLine

/-- What stands in a word behind its flag. -/
inductive Attachment
  /-- Nothing. -/
  | nothing
  /-- The value of a long flag, behind an equals sign. -/
  | value (text : Text)
  /-- The value of a short flag or more short flags, behind an equals sign or without one. -/
  | tail (text : Text)
deriving DecidableEq

/-- The word that separates flags from plain words. -/
def separatorText : Text := "--".toList

/-- What a word of a command line is. -/
inductive Word
  /-- A value, or a word left over. -/
  | plain
  /-- A flag with what is attached to it. -/
  | flag (f : Flag) (attachment : Attachment)
  /-- A word that looks like a flag and is none. -/
  | unknown
  /-- The `--` behind which every word is plain. -/
  | separator
deriving DecidableEq

/-- A negative decimal number, with a fraction or without; a line feed may end the word. -/
def isNegativeNumber : Text → Bool
  | '-' :: rest =>
    let number := if rest.getLast? = some '\n' then rest.dropLast else rest
    match number.dropWhile Text.isDigit with
    | [] => number != []
    | '.' :: digits => digits != [] && digits.all Text.isDigit
    | _ => false
  | _ => false

namespace Word

/-- A word that begins with a minus and no flag. -/
def ofUnflagged (word : Text) : Word :=
  if isNegativeNumber word || ' ' ∈ word then plain else unknown

/-- The part of a word before its first equals sign, and what stands behind that sign. -/
def cutValue (word : Text) : Text × Option Text :=
  (word.takeWhile (· != '='),
    match word.dropWhile (· != '=') with
    | [] => none
    | _ :: value => some value)

/-- What is attached to a flag that was spelled `name` by what stands behind an equals sign. -/
def attach (f : Flag) (name : Text) : Option Text → Attachment
  | none => .nothing
  | some text => if name = f.short then .tail text else .value text

/-- What a word before the first separator is. -/
def ofText (word : Text) : Except UsageError Word :=
  match word with
  | '-' :: second :: rest =>
    let (name, value?) := cutValue word
    match Flag.ofSpelling? name with
    | some f => .ok (flag f (attach f name value?))
    | none =>
      if second = '-' then
        match Flag.ofBeginning name with
        | [] => .ok (ofUnflagged word)
        | [f] => .ok (flag f (attach f name value?))
        | candidates => .error (.ambiguous word candidates)
      else
        match Flag.ofLetter? second with
        | some f => .ok (flag f (.tail rest))
        | none => .ok (ofUnflagged word)
  | _ => .ok plain

/-- Words with what each of them is. -/
def ofTexts : List Text → Except UsageError (List (Text × Word))
  | [] => .ok []
  | word :: rest =>
    if word = separatorText then .ok ((word, separator) :: rest.map fun text => (text, plain))
    else do
      let w ← ofText word
      let ws ← ofTexts rest
      return (word, w) :: ws

/-! ### Plain words -/

theorem ofText_of_head_ne {word : Text} (h : word.head? ≠ some '-') : ofText word = .ok plain := by
  unfold ofText
  split
  · exact absurd rfl h
  · rfl

end Word

end StackCalc.CommandLine
