import StackCalc.Proofs.Calculator.Reachable
import StackCalc.Proofs.Calculator.Turns
import StackCalc.Proofs.Session.Sources
import StackCalc.Proofs.Text.Quoted

/-!
# StackCalc.Proofs.Session.Dump — the list of tokens against the run of tokens

The list of tokens is made without a calculator: it tells of each token what kind it is and how many
operands it takes.  A run takes the same tokens, in the same order, and each of them acts as its row
says on every calculator that requests can lead to (`Listing.exists_describes`): an operand is
pushed or finds no room, what takes no operands keeps those that are there, what takes two puts one
in their place, and a token of no kind is not recognised.
-/

namespace StackCalc

open CommandLine

/-! ### What a row says -/

namespace Listing

/-- The kinds of tokens, each with the number of operands that it takes. -/
def kinds : List (Text × Text) :=
  [("operand", "None"), ("command", "0"), ("command", "2"), ("unknown", "None")].map
    fun (kind, number) => (kind.toList, number.toList)

/-- What a kind and a number of operands say of a token, whatever calculator takes it. -/
structure Describes (kind number token : Text) : Prop where
  /-- Just the tokens of no kind are not recognised. -/
  unknown : ∀ c : Calculator, c.Reachable →
    (kind = "unknown".toList ↔ ∃ t, (c.take token).fault? = some (.unrecognised t))
  /-- An operand is pushed, the same on every calculator, and shows nothing. -/
  operand : kind = "operand".toList → ∃ n, ∀ c : Calculator, c.Reachable →
    c.take token =
      if c.stack.length < 23 then .done { c with stack := n :: c.stack }
      else .failed c .stackOverflow
  /-- What takes no operands keeps all that are there. -/
  keeps : kind = "command".toList → number = "0".toList → ∀ c : Calculator, c.Reachable →
    (c.take token).fault? = none → c.stack <:+ (c.take token).calculator.stack
  /-- What takes two operands puts one in their place. -/
  replaces : kind = "command".toList → number = "2".toList → ∀ c : Calculator, c.Reachable →
    (c.take token).fault? = none → ∃ right left below result,
      c.stack = right :: left :: below ∧ (c.take token).calculator.stack = result :: below
  /-- What takes two operands finds too few just where there are fewer. -/
  underflows : kind = "command".toList → number = "2".toList → ∀ c : Calculator, c.Reachable →
    ((c.take token).fault? = some .stackUnderflow ↔ c.stack.length < 2)

/-! ### Rows apart -/

theorem tab_not_mem_quote (token : Text) : '\t' ∉ Text.quote token := fun h =>
  absurd (Text.isPrintable_of_mem_quote h) (by decide)

/-- The fields of a row are read off it: no tab stands in a token in quotes. -/
theorem splitOn_row {kind number : Text} (hkind : (kind, number) ∈ kinds) (token : Text) :
    (row [kind, Text.quote token, number]).splitOn '\t' = [kind, Text.quote token, number] := by
  have htabs : ∀ p ∈ kinds, '\t' ∉ p.1 ∧ '\t' ∉ p.2 := by decide
  refine List.splitOn_intercalate '\t' (fun field hfield => ?_) (by simp)
  rcases List.mem_cons.1 hfield with rfl | hfield
  · exact (htabs _ hkind).1
  rcases List.mem_pair.1 hfield with rfl | rfl
  · exact tab_not_mem_quote token
  · exact (htabs _ hkind).2

/-! ### Tokens of each kind -/

section Kinds

variable {token : Text} {i : Instruction}

/-- A token that means something is recognised, whatever calculator takes it. -/
theorem not_unrecognised {meaning : Meaning} (h : Meaning.ofToken? token = some meaning)
    (c : Calculator) : ¬ ∃ t, (c.take token).fault? = some (.unrecognised t) := by
  rintro ⟨t, ht⟩
  rw [(Calculator.take_unrecognised_iff.1 ht).1] at h
  cases h

theorem describes_operand {n : Int} (h : Meaning.ofToken? token = some (.operand n)) :
    Describes "operand".toList noNumber token where
  unknown c _ := iff_of_false (by decide) (not_unrecognised h c)
  operand _ := ⟨n, fun c _ => by rw [Calculator.take, h]; rfl⟩
  keeps hkind := absurd hkind (by decide)
  replaces hkind := absurd hkind (by decide)
  underflows hkind := absurd hkind (by decide)

theorem describes_unknown (h : Meaning.ofToken? token = none) :
    Describes "unknown".toList noNumber token where
  unknown c _ := ⟨fun _ => ⟨token, Calculator.take_unrecognised_iff.2 ⟨h, rfl⟩⟩, fun _ => rfl⟩
  operand hkind := absurd hkind (by decide)
  keeps hkind := absurd hkind (by decide)
  replaces hkind := absurd hkind (by decide)
  underflows hkind := absurd hkind (by decide)

/-- What takes no operands keeps those that are there, whether or not it succeeds. -/
theorem suffix_follow (hi : i.arity = 0) (c : Calculator) :
    c.stack <:+ (c.follow i).calculator.stack := by
  cases i with
  | showTop =>
    rcases c.showTop_cases with ⟨top, below, -, heq⟩ | ⟨-, heq⟩
    · simp [Calculator.follow, heq]
    · simp [Calculator.follow, heq, Outcome.failed]
  | showAll => exact List.suffix_rfl
  | draw =>
    rcases c.draw_cases with ⟨-, heq⟩ | ⟨-, heq⟩
    · simp [Calculator.follow, heq, Outcome.done]
    · simp [Calculator.follow, heq, Outcome.failed]
  | apply op | showApply op => cases hi

/-- What takes operands is an operator, with or without `=` behind it. -/
theorem follow_eq_operate (hi : i.arity ≠ 0) :
    i.arity = 2 ∧ ∃ op showing, ∀ c : Calculator, c.follow i = c.operate op showing := by
  cases i with
  | showTop | showAll | draw => exact absurd rfl hi
  | apply op => exact ⟨rfl, op, false, fun _ => rfl⟩
  | showApply op => exact ⟨rfl, op, true, fun _ => rfl⟩

theorem describes_nullary (h : Meaning.ofToken? token = some (.instruction i)) (hi : i.arity = 0) :
    Describes "command".toList "0".toList token where
  unknown c _ := iff_of_false (by decide) (not_unrecognised h c)
  operand hkind := absurd hkind (by decide)
  keeps _ _ c _ _ := by
    rw [Calculator.take, h]
    exact suffix_follow hi c
  replaces _ hnumber := absurd hnumber (by decide)
  underflows _ hnumber := absurd hnumber (by decide)

theorem describes_binary (h : Meaning.ofToken? token = some (.instruction i)) {op : Operator}
    {showing : Bool} (hi : ∀ c : Calculator, c.follow i = c.operate op showing) :
    Describes "command".toList "2".toList token := by
  have htake (c : Calculator) : c.take token = c.operate op showing := by
    rw [Calculator.take, h]
    exact hi c
  exact {
    unknown := fun c _ => iff_of_false (by decide) (not_unrecognised h c)
    operand := fun hkind => absurd hkind (by decide)
    keeps := fun _ hnumber => absurd hnumber (by decide)
    replaces := by
      intro _ _ c hc hfault
      rw [htake] at hfault ⊢
      rcases Calculator.operate_cases hc.sound.room op showing with ⟨-, heq⟩ |
        ⟨right, left, below, hstack, ⟨result, -, heq⟩ | ⟨fault, -, heq⟩⟩
      · rw [heq] at hfault
        cases hfault
      · exact ⟨right, left, below, result, hstack, by rw [heq]⟩
      · rw [heq] at hfault
        cases hfault
    underflows := by
      intro _ _ c hc
      rw [htake]
      rcases Calculator.operate_cases hc.sound.room op showing with ⟨hshort, heq⟩ |
        ⟨right, left, below, hstack, ⟨result, -, heq⟩ | ⟨fault, heval, heq⟩⟩
      · rw [heq]
        exact iff_of_true rfl hshort
      · rw [heq, hstack]
        exact iff_of_false (by simp) (by simp)
      · obtain ⟨-, -, rfl⟩ := Operator.eval_eq_error_iff.1 heval
        rw [heq, hstack]
        exact iff_of_false (by simp) (by simp) }

/-- **Every token acts as its row says**, and its row says one of four things. -/
theorem exists_describes (token : Text) : ∃ kind number, (kind, number) ∈ kinds ∧
    tokenRow token = row [kind, Text.quote token, number] ∧ Describes kind number token := by
  cases h : Meaning.ofToken? token with
  | none =>
    refine ⟨"unknown".toList, noNumber, by decide, ?_, describes_unknown h⟩
    rw [tokenRow, h]
  | some meaning =>
    cases meaning with
    | operand n =>
      refine ⟨"operand".toList, noNumber, by decide, ?_, describes_operand h⟩
      rw [tokenRow, h]
    | instruction i =>
      by_cases hi : i.arity = 0
      · refine ⟨"command".toList, "0".toList, by decide, ?_, describes_nullary h hi⟩
        rw [tokenRow, h]
        simp only [hi]
        rfl
      · obtain ⟨htwo, op, showing, hoperate⟩ := follow_eq_operate hi
        refine ⟨"command".toList, "2".toList, by decide, ?_, describes_binary h hoperate⟩
        rw [tokenRow, h]
        simp only [htwo]
        rfl

end Kinds

end Listing

/-! ### The turns of a run -/

/-- Every calculator that a token meets in a run is one that requests can lead to. -/
theorem Calculator.Reachable.turns {c : Calculator} (hc : c.Reachable) {ts : List Text}
    {turn : Turn} (h : turn ∈ c.turns ts) : turn.before.Reachable := by
  induction ts generalizing c with
  | nil => cases h
  | cons token rest ih =>
    rcases List.mem_cons.1 h with rfl | h
    · exact hc
    · have hpushes : (Request.token token).PushesOperands := trivial
      exact ih (hc.answer false hpushes) h

namespace Session

/-! ### Lists of tokens -/

/-- What a session that lists tokens leaves behind, with lines of its own. -/
theorem ofSettings_listTokens (verbose : Bool) (ls : List Text) (console : Console) :
    ofSettings ⟨verbose, some ls, none, .listTokens⟩ console =
      ⟨0, Listing.tokenHead :: (ls.flatMap Line.tokens).map Listing.tokenRow, [], []⟩ := by
  rw [List.map_flatMap]
  rfl

section Given

variable {ls : List Text} (h : ∀ line ∈ ls, ¬ ['-', '-'] <+: line) (console : Console)
include h

theorem run_listTokens :
    run (['-', 'D'] :: ['-', 'e'] :: ls) console =
      ⟨0, Listing.tokenHead :: (ls.flatMap Line.tokens).map Listing.tokenRow, [], []⟩ := by
  have hreading : Reading.ofTexts (['-', 'D'] :: ['-', 'e'] :: ls) =
      .accepted ⟨false, some ls, none, .listTokens⟩ :=
    (Reading.ofTextsWith_bare (f := .dump) (s := .initial) (.inr (.inr rfl)) rfl _).trans
      (Reading.ofTextsWith_expression_of_not_prefix rfl h)
  exact (run_of_accepted hreading console).trans (ofSettings_listTokens false ls console)

/-- A run of the lines puts out what the turns of its tokens come to. -/
theorem run_turns :
    run (['-', 'e'] :: ls) console =
      ⟨0, ((Calculator.fresh.turns (ls.flatMap Line.tokens)).flatMap fun turn =>
        turn.outcome.reports).map Report.text, [], []⟩ := by
  have hreading : Reading.ofTexts (['-', 'e'] :: ls) =
      .accepted ⟨false, some ls, none, .calculate⟩ :=
    Reading.ofTextsWith_expression_of_not_prefix (s := .initial) rfl h
  rw [run_of_accepted hreading]
  refine (ofSettings_given false ls console).trans ?_
  rw [Calculator.err_runLines, Calculator.runLines_eq_runTokens,
    Calculator.out_runTokens_eq_flatMap_turns]
  rfl

end Given

/-- **The list of tokens agrees with the run**: below its head stands one row for each turn of the
run, in order.  The three fields of the row are a kind, the token of that turn in quotes, and a
number of operands; they say how the token acts on every calculator that requests can lead to, the
one that it meets in its turn among them. -/
theorem listTokens_describes_turns {ls : List Text} (h : ∀ line ∈ ls, ¬ ['-', '-'] <+: line)
    (console : Console) :
    let turns := Calculator.fresh.turns (ls.flatMap Line.tokens)
    run (['-', 'e'] :: ls) console =
      ⟨0, (turns.flatMap fun turn => turn.outcome.reports).map Report.text, [], []⟩ ∧
    run (['-', 'D'] :: ['-', 'e'] :: ls) console =
      ⟨0, Listing.tokenHead :: turns.map fun turn => Listing.tokenRow turn.token, [], []⟩ ∧
    ∀ turn ∈ turns, turn.before.Reachable ∧ ∃ kind number, (kind, number) ∈ Listing.kinds ∧
      (Listing.tokenRow turn.token).splitOn '\t' = [kind, Text.quote turn.token, number] ∧
      Listing.Describes kind number turn.token := by
  intro turns
  have hrows : turns.map (fun turn => Listing.tokenRow turn.token) =
      (ls.flatMap Line.tokens).map Listing.tokenRow := by
    conv_rhs => rw [← Calculator.map_token_turns .fresh (ls.flatMap Line.tokens), List.map_map]
    rfl
  refine ⟨run_turns h console, by rw [run_listTokens h console, hrows], fun turn hturn => ?_⟩
  obtain ⟨kind, number, hkind, hrow, hdescribes⟩ := Listing.exists_describes turn.token
  refine ⟨Calculator.Reachable.fresh.turns hturn, kind, number, hkind, ?_, hdescribes⟩
  rw [hrow, Listing.splitOn_row hkind]

/-- In `1 x 2 +` the second token is of no kind, and no calculator recognises it. -/
theorem listTokens_describes_turns_unknown :
    (∀ line ∈ ["1 x 2 +".toList], ¬ ['-', '-'] <+: line) ∧
    Listing.Describes "unknown".toList "None".toList ['x'] := by
  have h : ∀ line ∈ ["1 x 2 +".toList], ¬ ['-', '-'] <+: line := by decide
  obtain ⟨-, -, hturns⟩ := listTokens_describes_turns h ⟨[], true, true, [], .endOfInput⟩
  have hturn : Turn.mk ⟨[1], .start⟩ ['x'] ∈
      Calculator.fresh.turns (["1 x 2 +".toList].flatMap Line.tokens) := by decide
  obtain ⟨-, kind, number, -, hfields, hdescribes⟩ := hturns _ hturn
  have hrow : (Listing.tokenRow ['x']).splitOn '\t' =
      ["unknown".toList, Text.quote ['x'], "None".toList] := by decide
  cases hrow.symm.trans hfields
  exact ⟨h, hdescribes⟩

end Session

end StackCalc
