import Mathlib.Data.List.Pairwise
import Mathlib.Logic.Function.Conjugate
import StackCalc.Line.Tokens
import StackCalc.Proofs.Line.Padding

/-!
# StackCalc.Proofs.Line.PassOrder — the three passes in any order

A pass only puts in spaces.  It puts none between an operator and the `=` behind it, and none
between letters of one run, so it takes nothing from the others; and it brings no `=` next to an
operator, so it gives them nothing either.  Hence any two passes may be exchanged
(`pairwise_commute_paddings`), and the normal form of a line does not depend on the order of the
three (`normalize_of_perm`).
-/

namespace StackCalc.Line

/-! ### No pass brings an `=` in front -/

theorem head?_padCompounds_eq_iff (text : Text) :
    (padCompounds text).head? = some '=' ↔ text.head? = some '=' := by
  induction text using padded_induction with
  | nil => rfl
  | compound c rest hc =>
    have hne : c ≠ '=' := by
      rintro rfl
      cases hc
    simp [padCompounds_compound hc, hne]
  | alone c rest ha hc => rw [padCompounds_cons hc, List.head?_cons, List.head?_cons]
  | plain c rest ha hc => rw [padCompounds_cons hc, List.head?_cons, List.head?_cons]

theorem head?_of_head?_padLettersFrom {k : LetterKind} {text : Text}
    (h : (padLettersFrom k text).head? = some '=') : text.head? = some '=' := by
  cases text with
  | nil => cases k <;> cases h
  | cons c rest =>
    rw [padLettersFrom] at h
    cases k <;> cases hc : letterKind c <;> simp_all [gap]

/-! ### Spaces beside letters -/

theorem gap_cases (k l : LetterKind) : gap k l = [] ∨ gap k l = [' '] := by
  cases k <;> cases l <;> decide

theorem padOperators_gap (k l : LetterKind) (text : Text) :
    padOperators (gap k l ++ text) = gap k l ++ padOperators text := by
  rcases gap_cases k l with h | h <;> rw [h]
  · rfl
  · exact padOperators_plain rfl text

theorem padCompounds_gap (k l : LetterKind) (text : Text) :
    padCompounds (gap k l ++ text) = gap k l ++ padCompounds text := by
  rcases gap_cases k l with h | h <;> rw [h]
  · rfl
  · exact padCompounds_space text

/-- The letters behind a character that is none are set apart without regard to it. -/
theorem padLettersFrom_cons_other {c : Char} (hc : letterKind c = .other) (rest : Text)
    (k : LetterKind) :
    padLettersFrom k (c :: rest) = gap k .other ++ c :: padLettersFrom .other rest := by
  rw [padLettersFrom, hc]

theorem padLettersFrom_other {c : Char} (hc : letterKind c = .other) (rest : Text) :
    padLettersFrom .other (c :: rest) = c :: padLettersFrom .other rest :=
  padLettersFrom_cons_other hc rest .other

/-! ### Two passes at a time -/

theorem padOperators_padCompounds : Function.Commute padOperators padCompounds := by
  intro text
  induction text using padded_induction with
  | nil => rfl
  | compound c rest hc ih =>
    rw [padCompounds_compound hc, padOperators_plain rfl, padOperators_compound,
      padOperators_plain rfl, ih, padOperators_compound, padCompounds_compound hc]
  | alone c rest ha hc ih =>
    have hc' : startsCompound (c :: padCompounds rest) = false :=
      startsCompound_of_head? (head?_padCompounds_eq_iff rest).1 hc
    have hspace : startsCompound (c :: ' ' :: padOperators rest) = false := by
      simp [startsCompound_cons]
    rw [padCompounds_cons hc, padOperators_alone ha hc', ih, padOperators_alone ha hc,
      padCompounds_space, padCompounds_cons hspace, padCompounds_space]
  | plain c rest ha hc ih =>
    have hc' : startsCompound (c :: padOperators rest) = false :=
      startsCompound_of_head? (head?_padOperators_eq_iff rest).1 hc
    rw [padCompounds_cons hc, padOperators_plain ha, ih, padOperators_plain ha,
      padCompounds_cons hc']

theorem padOperators_padLettersFrom (k : LetterKind) (text : Text) :
    padOperators (padLettersFrom k text) = padLettersFrom k (padOperators text) := by
  -- over every kind in front, since what follows a letter is set apart from that letter
  induction text using padded_induction generalizing k with
  | nil => cases k <;> rfl
  | compound c rest hc ih =>
    have hk := letterKind_of_isOperator hc
    rw [padLettersFrom_cons_other hk, padLettersFrom_other rfl, padOperators_gap,
      padOperators_compound, ih, padOperators_compound, padLettersFrom_cons_other hk,
      padLettersFrom_other rfl]
  | alone c rest ha hc ih =>
    have hk := letterKind_of_isOperator (isOperator_of_standsAlone ha)
    have hc' : startsCompound (c :: padLettersFrom .other rest) = false :=
      startsCompound_of_head? head?_of_head?_padLettersFrom hc
    rw [padLettersFrom_cons_other hk, padOperators_gap, padOperators_alone ha hc', ih,
      padOperators_alone ha hc, padLettersFrom_cons_other rfl, padLettersFrom_other hk,
      padLettersFrom_other rfl]
  | plain c rest ha hc ih =>
    rw [padLettersFrom, padOperators_gap, padOperators_plain ha, ih, padOperators_plain ha,
      padLettersFrom]

theorem padCompounds_padLettersFrom (k : LetterKind) (text : Text) :
    padCompounds (padLettersFrom k text) = padLettersFrom k (padCompounds text) := by
  induction text using padded_induction generalizing k with
  | nil => cases k <;> rfl
  | compound c rest hc ih =>
    have hk := letterKind_of_isOperator hc
    rw [padLettersFrom_cons_other hk, padLettersFrom_other rfl, padCompounds_gap,
      padCompounds_compound hc, ih, padCompounds_compound hc, padLettersFrom_cons_other rfl,
      padLettersFrom_other hk, padLettersFrom_other rfl, padLettersFrom_other rfl]
  | alone c rest ha hc ih | plain c rest ha hc ih =>
    have hc' : startsCompound (c :: padLettersFrom (letterKind c) rest) = false :=
      startsCompound_of_head? head?_of_head?_padLettersFrom hc
    rw [padLettersFrom, padCompounds_gap, padCompounds_cons hc', ih, padCompounds_cons hc,
      padLettersFrom]

/-- **Any two of the passes may be exchanged.** -/
theorem pairwise_commute_paddings : paddings.Pairwise Function.Commute := by
  have hoperators : ∀ g ∈ [padCompounds, padLetters], Function.Commute padOperators g :=
    List.forall_mem_cons.2 ⟨padOperators_padCompounds,
      List.forall_mem_singleton.2 (padOperators_padLettersFrom .other)⟩
  have hcompounds : ∀ g ∈ [padLetters], Function.Commute padCompounds g :=
    List.forall_mem_singleton.2 (padCompounds_padLettersFrom .other)
  exact .cons hoperators (.cons hcompounds (List.pairwise_singleton _ _))

/-! ### All passes -/

/-- **The order of the passes makes no difference**, to any text, nor to the normal form of any
line, as long as comments are removed before them and blanks are collapsed behind them. -/
theorem normalize_of_perm {passes : List (Text → Text)} (h : passes.Perm paddings) :
    (∀ text, applyPasses passes text = applyPasses paddings text) ∧
      ∀ line, trim (collapse (applyPasses passes (removeComments line))) = normalize line := by
  have hsymm : Std.Symm (Function.Commute : (Text → Text) → (Text → Text) → Prop) :=
    ⟨fun _ _ hfg => hfg.symm⟩
  have hcommute := List.Pairwise.forall_of_forall (fun f _ => Function.Commute.refl f)
    pairwise_commute_paddings
  have hpasses (text : Text) : applyPasses passes text = applyPasses paddings text :=
    (h.symm.foldl_eq' (fun f hf g hg t => hcommute hg hf t) text).symm
  refine ⟨hpasses, fun line => ?_⟩
  rw [hpasses, normalize]

/-- Letters first and operators last, on operators that touch each other and letters. -/
theorem normalize_of_perm_reversed :
    let passes := [padLetters, padCompounds, padOperators]
    passes.Perm paddings ∧
      applyPasses passes "+-=r+=d*+==-x".toList = " +  -=  r  +=  d  *  += =- x ".toList ∧
      trim (collapse (applyPasses passes (removeComments "+-=#a#r+=d\t*".toList))) =
        "+ -= r += d *".toList := by
  intro passes
  have h : passes.Perm paddings := by
    have hreverse := List.reverse_perm paddings
    exact hreverse
  obtain ⟨happly, hnormalize⟩ := normalize_of_perm h
  exact ⟨h, (happly _).trans (by decide), (hnormalize _).trans (by decide)⟩

end StackCalc.Line
