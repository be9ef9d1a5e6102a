import StackCalc.Line.Tokens

/-!
# StackCalc.Line.Scan — the tokens of a line in one pass

`scan` finds the tokens of a line as it stands: once the comments are gone and the ends
are trimmed, it goes over the text once and cuts off one token after the other.  It is the plain
account of what a token is, beside the passes of `StackCalc.Line.Tokens`.

`WellFormed` says of a text alone that it is a token of some line, and `Normal` of a list of texts
that they are the tokens of one line without line feeds.
-/

namespace StackCalc.Line

/-- A line without its comments and trimmed, all its tokens still as they were written. -/
def strip (line : Text) : Text := trim (cutComments line)

/-- Whether a text begins with an operator and `=`. -/
def startsCompound (text : Text) : Bool :=
  text.head?.any isOperator && text[1]? == some '='

/-- Whether a run of characters that are nothing else ends before a text. -/
def endsRun (text : Text) : Bool :=
  text.head?.all (fun c => isBlank c || c.isAlpha || standsAlone c) || startsCompound text

/-- The run of characters that are nothing else at the start of a text, and what follows it. -/
def spanRun : Text → Text × Text
  | [] => ([], [])
  | c :: rest =>
    if endsRun (c :: rest) then ([], c :: rest)
    else (c :: (spanRun rest).1, (spanRun rest).2)

/-- The letters that stand together. -/
def isWordLetter (c : Char) : Bool := letterKind c == .word

theorem length_spanRun_le (text : Text) : (spanRun text).2.length ≤ text.length := by
  induction text with
  | nil => exact Nat.le_refl _
  | cons c rest ih =>
    rw [spanRun]
    split
    · exact Nat.le_refl _
    · exact Nat.le_succ_of_le ih

/-- The tokens of a text without comments. -/
def scanText : Text → List Text
  | [] => []
  | c :: rest =>
    if isBlank c then scanText rest
    else if startsCompound (c :: rest) then [c, '='] :: scanText rest.tail
    else if standsAlone c || letterKind c == .single then [c] :: scanText rest
    else if isWordLetter c then
      (c :: rest.takeWhile isWordLetter) :: scanText (rest.dropWhile isWordLetter)
    else (c :: (spanRun rest).1) :: scanText (spanRun rest).2
termination_by text => text.length
decreasing_by
  · exact Nat.lt_succ_self _
  · rw [List.length_tail, List.length_cons]
    omega
  · exact Nat.lt_succ_self _
  · exact Nat.lt_succ_of_le (List.dropWhile_sublist _).length_le
  · exact Nat.lt_succ_of_le (length_spanRun_le rest)

/-- The tokens of a line, found in one pass. -/
def scan (line : Text) : List Text := scanText (strip line)

/-! ## Which texts are tokens -/

/-- A run of characters that are nothing else: no blank, no letter, no operator that stands alone,
and no minus with `=` behind it. -/
def IsRun (token : Text) : Prop :=
  (∀ c ∈ token, isBlank c = false ∧ c.isAlpha = false ∧ standsAlone c = false) ∧
    ¬ ['-', '='] <:+: token

theorem isRun_of_not_mem {token : Text}
    (h : ∀ c ∈ token, isBlank c = false ∧ c.isAlpha = false ∧ standsAlone c = false)
    (heq : '=' ∉ token) : IsRun token :=
  ⟨h, fun hfound => heq (hfound.subset (by simp))⟩

/-- A text that is a token wherever it stands between blanks. -/
def WellFormed (token : Text) : Prop :=
  token ≠ [] ∧
    ((∃ c, standsAlone c = true ∧ token = [c]) ∨ (∃ c, isOperator c = true ∧ token = [c, '=']) ∨
      (∃ c, letterKind c = .single ∧ token = [c]) ∨ (∀ c ∈ token, isWordLetter c = true) ∨
      IsRun token)

/-- Tokens that make up a line without line feeds: each is well formed, the ends of the line are
no characters that are trimmed, and no two marks make a comment. -/
def Normal (tokens : List Text) : Prop :=
  (∀ token ∈ tokens, WellFormed token) ∧
    (∀ c, tokens.flatten.head? = some c → isEdge c = false) ∧
    (∀ c, tokens.flatten.getLast? = some c → isEdge c = false) ∧
    tokens.flatten.count '#' ≤ 1

end StackCalc.Line
