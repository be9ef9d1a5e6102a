import StackCalc.Operator

/-!
# StackCalc.Line.Tokens — the tokens of a line

`normalize` removes the comments of a line, sets apart what has to stand alone, and leaves single
spaces between tokens and nothing at the ends.  The tokens are then what stands between spaces.

*Comments.*  A comment runs from the first to the last mark `#` of a stretch without line feeds,
marks included; whatever stands between two comments goes with them.  A mark that is alone in its
stretch opens nothing and stays.  `removeComments` goes over a line from left to right and takes out
the longest comment wherever one opens.  `cutComments` is the plain account of it: each stretch of
the line loses what stands between its outer marks.

*Padding.*  Three passes over a line put spaces around what is a token wherever it stands:

* `padOperators` around each operator that `=` does not follow, but never around a minus, which
  may be the sign of an operand;
* `padCompounds` around each operator that `=` follows, the two together, minus included;
* `padLetters` around each `d`, each `r` and each run of other ASCII letters.

No pass looks at a character that another pass has put in.

*Blanks.*  Between tokens, the six blanks of ASCII count, and a run of them is as good as one space.
At the ends of a line more goes: every character up to U+0020.
-/

namespace StackCalc.Line

/-! ## Comments -/

/-! ### From left to right -/

/-- The length of a text up to its last mark before a line feed, that mark included. -/
def lengthToMark? : Text → Option Nat
  | [] => none
  | c :: rest =>
    if c = '\n' then none
    else match lengthToMark? rest with
      | some length => some (length + 1)
      | none => if c = '#' then some 1 else none

/-- The length of the comment that a text begins with, less its first mark. -/
def commentLength? (c : Char) (rest : Text) : Option Nat :=
  if c = '#' then lengthToMark? rest else none

/-- A text without its comments, where its first `skip` characters end a comment. -/
def removeCommentsFrom : Nat → Text → Text
  | _, [] => []
  | skip + 1, _ :: rest => removeCommentsFrom skip rest
  | 0, c :: rest =>
    match commentLength? c rest with
    | some length => removeCommentsFrom length rest
    | none => c :: removeCommentsFrom 0 rest

/-- A line without its comments. -/
def removeComments (line : Text) : Text := removeCommentsFrom 0 line

/-! ### Stretch by stretch -/

/-- The part of a text before its first mark. -/
def beforeMark (text : Text) : Text := text.takeWhile (· != '#')

/-- The part of a text behind its last mark. -/
def behindMark (text : Text) : Text := (text.reverse.takeWhile (· != '#')).reverse

/-- A stretch without line feeds, less its comment. -/
def cutComment (stretch : Text) : Text :=
  if 2 ≤ stretch.count '#' then beforeMark stretch ++ behindMark stretch else stretch

/-- A line with the comment of each of its stretches cut out. -/
def cutComments (line : Text) : Text :=
  ['\n'].intercalate ((line.splitOn '\n').map cutComment)

/-! ### Where a comment is cut -/

theorem beforeMark_append {a : Text} (h : '#' ∉ a) (rest : Text) :
    beforeMark (a ++ '#' :: rest) = a := by
  have hne : ∀ c ∈ a, (c != '#') = true := fun c hc => bne_iff_ne.2 fun e => h (e ▸ hc)
  rw [beforeMark, List.takeWhile_append_of_pos hne]
  simp

theorem behindMark_append {b : Text} (h : '#' ∉ b) (rest : Text) :
    behindMark (rest ++ '#' :: b) = b := by
  rw [behindMark, List.reverse_append, List.reverse_cons, List.append_assoc]
  exact (congrArg List.reverse (beforeMark_append (by simpa using h) _)).trans (by simp)

theorem cutComment_comment {a b : Text} (ha : '#' ∉ a) (hb : '#' ∉ b) (inner : Text) :
    cutComment (a ++ '#' :: (inner ++ '#' :: b)) = a ++ b := by
  have hcount : 2 ≤ (a ++ '#' :: (inner ++ '#' :: b)).count '#' := by
    simp only [List.count_append, List.count_cons_self]
    omega
  rw [cutComment, if_pos hcount, beforeMark_append ha]
  have : a ++ '#' :: (inner ++ '#' :: b) = (a ++ '#' :: inner) ++ '#' :: b := by simp
  rw [this, behindMark_append hb]

theorem cutComment_of_count_lt {stretch : Text} (h : stretch.count '#' < 2) :
    cutComment stretch = stretch := if_neg (Nat.not_le.2 h)

/-! ## Spaces around what has to stand alone -/

/-- A character that spells an operator. -/
def isOperator (c : Char) : Bool := (Operator.ofSymbol? c).isSome

/-- An operator that is a token wherever it stands: all but the minus. -/
def standsAlone (c : Char) : Bool := isOperator c && c != '-'

/-! ### Operators -/

/-- The line with spaces around each operator that `=` does not follow, minus excepted. -/
def padOperators : Text → Text
  | [] => []
  | c :: rest =>
    if standsAlone c && rest.head? != some '=' then ' ' :: c :: ' ' :: padOperators rest
    else c :: padOperators rest

/-- The line with spaces around each operator and the `=` that follows it. -/
def padCompounds : Text → Text
  | [] => []
  | [c] => [c]
  | c :: d :: rest =>
    if isOperator c && d == '=' then ' ' :: c :: d :: ' ' :: padCompounds rest
    else c :: padCompounds (d :: rest)

/-! ### Letters -/

/-- What a character is among letters. -/
inductive LetterKind
  /-- The letter of an instruction, `d` or `r`, which stands alone. -/
  | single
  /-- Any other ASCII letter, which stands with its like. -/
  | word
  /-- No ASCII letter. -/
  | other
deriving DecidableEq

/-- What a character is among letters. -/
def letterKind (c : Char) : LetterKind :=
  if c = 'd' ∨ c = 'r' then .single else if c.isAlpha then .word else .other

/-- The space that goes between two neighbours: none where there is no letter or within a run. -/
def gap : LetterKind → LetterKind → Text
  | .other, .other => []
  | .word, .word => []
  | _, _ => [' ']

/-- The text behind a character of kind `before`, with its letters set apart. -/
def padLettersFrom (before : LetterKind) : Text → Text
  | [] => gap before .other
  | c :: rest => gap before (letterKind c) ++ c :: padLettersFrom (letterKind c) rest

/-- The line with spaces around each `d`, each `r` and each run of other ASCII letters. -/
def padLetters (line : Text) : Text := padLettersFrom .other line

/-! ### The passes together -/

/-- The three passes, in order. -/
def paddings : List (Text → Text) := [padOperators, padCompounds, padLetters]

/-- A text after a list of passes, the first pass first. -/
def applyPasses (passes : List (Text → Text)) (text : Text) : Text :=
  passes.foldl (fun text pass => pass text) text

/-! ## Blanks and ends of lines -/

/-- The blanks: space, tab, line feed, vertical tab, form feed and carriage return. -/
def isBlank (c : Char) : Bool :=
  c == ' ' || c == '\t' || c == '\n' || c == '\x0B' || c == '\x0C' || c == '\r'

/-- The characters that no line begins or ends with. -/
def isEdge (c : Char) : Bool := c ≤ ' '

/-- A text with one space for each run of blanks. -/
def collapse : Text → Text
  | [] => []
  | c :: rest =>
    if isBlank c then
      if rest.head?.any isBlank then collapse rest else ' ' :: collapse rest
    else c :: collapse rest

/-- A text without the characters up to U+0020 at its ends. -/
def trim (text : Text) : Text :=
  ((text.dropWhile isEdge).reverse.dropWhile isEdge).reverse

/-! ### Blanks are trimmed too -/

theorem isEdge_of_isBlank {c : Char} (h : isBlank c = true) : isEdge c = true := by
  simp only [isBlank, Bool.or_eq_true, beq_iff_eq] at h
  rcases h with ((((rfl | rfl) | rfl) | rfl) | rfl) | rfl <;> rfl

/-! ## Tokens -/

/-- A line in normal form: its tokens with one space between neighbours. -/
def normalize (line : Text) : Text :=
  trim (collapse (applyPasses paddings (removeComments line)))

/-- The tokens of a line. -/
def tokens (line : Text) : List Text :=
  if normalize line = [] then [] else (normalize line).splitOn ' '

/-! ### The normal form is the tokens with spaces between -/

theorem intercalate_tokens (line : Text) : [' '].intercalate (tokens line) = normalize line := by
  rw [tokens]
  split
  · next h => rw [h]; rfl
  · exact List.intercalate_splitOn ' '

end StackCalc.Line
