/-!
# StackCalc.Text.Basic — texts, their lines, and decimal numerals

Lines, tokens and messages are lists of characters, so that each rule about them is a recursion on
a list.

A line ends at a line feed, at a carriage return, or at the pair of the two.  `unifyLineEnds`
writes every line end as one line feed; `lines` then cuts after each of them.  Every line keeps
its own end, so nothing is lost, and a last line without one is a line all the same.

`decimal n` is the shortest numeral of `n`: ASCII digits, no leading zero, and a minus in front of
a negative number only.  Numerals that are read may use the digits of every script, the characters
of the Unicode general category `Nd`, which come in blocks of ten, zero to nine in order.  One
table of them answers two questions: which characters match the `\d` in the form of an operand,
and what number each of them stands for.  Both are answered as of Unicode 14, and a character that
a later version adds to the category is no digit for either.
-/

namespace StackCalc

/-- A text is the list of its characters. -/
abbrev Text := List Char

namespace Text

/-! ## Lines -/

/-- The text with each of its line ends written as one line feed: a carriage return gives way to the
line feed behind it, and becomes one where there is none. -/
def unifyLineEnds : Text → Text
  | [] => []
  | c :: rest =>
    if c = '\r' then
      if rest.head? = some '\n' then unifyLineEnds rest else '\n' :: unifyLineEnds rest
    else c :: unifyLineEnds rest

/-- The lines of a text, cut after each line feed. -/
def lines : Text → List Text
  | [] => []
  | c :: rest =>
    if c = '\n' then [c] :: lines rest
    else match lines rest with
      | [] => [[c]]
      | line :: more => (c :: line) :: more

theorem unifyLineEnds_of_not_mem {text : Text} (h : '\r' ∉ text) : unifyLineEnds text = text := by
  induction text with
  | nil => rfl
  | cons c rest ih =>
    rw [List.mem_cons, not_or] at h
    rw [unifyLineEnds, if_neg (Ne.symm h.1), ih h.2]

/-! ## Decimal digits of every script -/

/-- The code point of the zero of each block of decimal digits. -/
def digitZeros : List Nat :=
  [
    0x30, 0x660, 0x6F0, 0x7C0, 0x966, 0x9E6, 0xA66, 0xAE6, 0xB66, 0xBE6, 0xC66, 0xCE6, 0xD66,
    0xDE6, 0xE50, 0xED0, 0xF20, 0x1040, 0x1090, 0x17E0, 0x1810, 0x1946, 0x19D0, 0x1A80, 0x1A90,
    0x1B50, 0x1BB0, 0x1C40, 0x1C50, 0xA620, 0xA8D0, 0xA900, 0xA9D0, 0xA9F0, 0xAA50, 0xABF0, 0xFF10,
    0x104A0, 0x10D30, 0x11066, 0x110F0, 0x11136, 0x111D0, 0x112F0, 0x11450, 0x114D0, 0x11650,
    0x116C0, 0x11730, 0x118E0, 0x11950, 0x11C50, 0x11D50, 0x11DA0, 0x16A60, 0x16AC0, 0x16B50,
    0x1D7CE, 0x1D7D8, 0x1D7E2, 0x1D7EC, 0x1D7F6, 0x1E140, 0x1E2F0, 0x1E950, 0x1FBF0
  ]

/-- The value of a decimal digit of any script, as of Unicode 14. -/
def digitValue? (c : Char) : Option Nat :=
  (digitZeros.find? fun start => start ≤ c.toNat && c.toNat < start + 10).map (c.toNat - ·)

/-- A decimal digit of any script. -/
def isDigit (c : Char) : Bool := (digitValue? c).isSome

/-! ## Numerals -/

/-- The decimal numeral of an integer. -/
def decimal : Int → Text
  | .ofNat n => Nat.toDigits 10 n
  | .negSucc n => '-' :: Nat.toDigits 10 (n + 1)

theorem decimal_ne_nil (n : Int) : decimal n ≠ [] := by
  cases n with
  | ofNat n => exact Nat.toDigits_ne_nil
  | negSucc n => exact List.cons_ne_nil _ _

end Text

end StackCalc
