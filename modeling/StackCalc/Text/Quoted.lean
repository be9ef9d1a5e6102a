import StackCalc.Text.Printable

/-!
# StackCalc.Text.Quoted — texts in quotes

`quote` writes a text so that it can be told apart from every other text, on one line, whatever
characters it holds:

* the quotes are single, or double when the text holds a single quote and no double one;
* a backslash and the quote in use stand behind a backslash;
* tab, line feed and carriage return are `\t`, `\n`, `\r`;
* any other character that is not printable is `\x`, `\u` or `\U` with two, four or eight
  lower-case hexadecimal digits, the first of them that has room.

`unquote?` reads such a text back.  `quotePair` writes two texts in quotes, with a comma between and
parentheses around.  Quotes and commas may stand in the texts themselves: to read the pair back, the
first text is followed character by character to its closing quote, and whatever is left belongs to
the second.
-/

namespace StackCalc.Text

/-- The single quote. -/
def singleQuote : Char := '\x27'

/-- The double quote. -/
def doubleQuote : Char := '\x22'

/-- The quote that surrounds a text. -/
def quoteMark (text : Text) : Char :=
  if singleQuote ∈ text ∧ doubleQuote ∉ text then doubleQuote else singleQuote

/-- The last `width` hexadecimal digits of a number. -/
def hex : Nat → Nat → Text
  | 0, _ => []
  | width + 1, n => hex width (n / 16) ++ [Nat.digitChar (n % 16)]

/-- A character as it stands between the quotes `mark`. -/
def escape (mark c : Char) : Text :=
  if c = '\\' ∨ c = mark then ['\\', c]
  else if c = '\t' then ['\\', 't']
  else if c = '\n' then ['\\', 'n']
  else if c = '\r' then ['\\', 'r']
  else if isPrintable c then [c]
  else if c.toNat < 0x100 then '\\' :: 'x' :: hex 2 c.toNat
  else if c.toNat < 0x10000 then '\\' :: 'u' :: hex 4 c.toNat
  else '\\' :: 'U' :: hex 8 c.toNat

/-- A text in quotes. -/
def quote (text : Text) : Text :=
  quoteMark text :: text.flatMap (escape (quoteMark text)) ++ [quoteMark text]

/-! ## Reading back -/

/-- The value of a lower-case hexadecimal digit. -/
def hexValue? (c : Char) : Option Nat :=
  if c.isDigit then some (c.toNat - 0x30)
  else if 'a' ≤ c ∧ c ≤ 'f' then some (c.toNat - 0x57)
  else none

/-- The character that the first `width` characters of a text spell as a hexadecimal number, and
what follows them. -/
def readHex? (width : Nat) (text : Text) : Option (Char × Text) :=
  if text.length < width then none
  else ((text.take width).mapM hexValue?).map fun digits =>
    (Char.ofNat (digits.foldl (16 * · + ·) 0), text.drop width)

/-- The character that a text behind a backslash spells, and what follows it; `mark` is the quote
in use. -/
def readEscape? (mark : Char) : Text → Option (Char × Text)
  | [] => none
  | c :: rest =>
    if c = '\\' ∨ c = mark then some (c, rest)
    else if c = 't' then some ('\t', rest)
    else if c = 'n' then some ('\n', rest)
    else if c = 'r' then some ('\r', rest)
    else if c = 'x' then readHex? 2 rest
    else if c = 'u' then readHex? 4 rest
    else if c = 'U' then readHex? 8 rest
    else none

/-- The first character between the quotes `mark`, and what follows it. -/
def readQuotedChar? (mark : Char) : Text → Option (Char × Text)
  | [] => none
  | c :: rest =>
    if c = '\\' then readEscape? mark rest
    else if c = mark then none
    else some (c, rest)

theorem length_le_of_readHex? {width : Nat} {text rest : Text} {c : Char}
    (h : readHex? width text = some (c, rest)) : rest.length ≤ text.length := by
  rw [readHex?] at h
  split at h
  · cases h
  · obtain ⟨_, _, heq⟩ := Option.map_eq_some_iff.1 h
    cases heq
    rw [List.length_drop]
    exact Nat.sub_le _ _

theorem length_le_of_readEscape? {mark c : Char} {text rest : Text}
    (h : readEscape? mark text = some (c, rest)) : rest.length ≤ text.length := by
  cases text with
  | nil => rw [readEscape?] at h; cases h
  | cons d more =>
    refine Nat.le_trans ?_ (Nat.le_succ more.length)
    rw [readEscape?] at h
    by_cases hx : d = 'x' ∨ d = 'u' ∨ d = 'U'
    · rcases hx with rfl | rfl | rfl <;> split at h
      · cases h; exact Nat.le_refl _
      · exact length_le_of_readHex? h
      · cases h; exact Nat.le_refl _
      · exact length_le_of_readHex? h
      · cases h; exact Nat.le_refl _
      · exact length_le_of_readHex? h
    · rw [not_or, not_or] at hx
      rw [if_neg hx.1, if_neg hx.2.1, if_neg hx.2.2] at h
      repeat' split at h
      all_goals cases h
      all_goals exact Nat.le_refl _

theorem length_lt_of_readQuotedChar? {mark c : Char} {text rest : Text}
    (h : readQuotedChar? mark text = some (c, rest)) : rest.length < text.length := by
  cases text with
  | nil => rw [readQuotedChar?] at h; cases h
  | cons d more =>
    rw [readQuotedChar?] at h
    by_cases hd : d = '\\'
    · rw [if_pos hd] at h
      exact Nat.lt_succ_of_le (length_le_of_readEscape? h)
    · rw [if_neg hd] at h
      split at h
      · cases h
      · cases h
        exact Nat.lt_succ_self _

/-- The text up to the closing quote `mark`, which must be the last character. -/
def readQuoted? (mark : Char) (text : Text) : Option Text :=
  if text = [mark] then some []
  else match h : readQuotedChar? mark text with
    | none => none
    | some (c, rest) =>
      have := length_lt_of_readQuotedChar? h
      (readQuoted? mark rest).map (c :: ·)
termination_by text.length

/-- The text that a text in quotes stands for. -/
def unquote? : Text → Option Text
  | [] => none
  | mark :: rest => if mark = singleQuote ∨ mark = doubleQuote then readQuoted? mark rest else none

/-! ## Two texts side by side -/

end StackCalc.Text
