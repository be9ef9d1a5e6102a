import StackCalc.Calculator.Run
import StackCalc.Proofs.Line.Rendering

/-!
# StackCalc.Proofs.Line.Joining — texts joined by a blank

A blank is a boundary that no token crosses: the scanner cuts what stands in front of it and what
stands behind it as if each stood alone (`scanText_join`).  Nor does a comment cross a line feed, or
a place with marks on one side of it only (`removeComments_join`).  The ends are trimmed of more
than blanks, so where a text is cut in two, the new ends must not hold other control characters.
Two such texts on one line come to the same as each on a line of its own (`runLine_join`).
-/

namespace StackCalc

namespace Line

/-! ### The scanner at a blank -/

section Blank

variable {s : Char} (hs : isBlank s = true)

include hs

theorem startsCompound_join (c : Char) (text rest : Text) :
    startsCompound (c :: (text ++ s :: rest)) = startsCompound (c :: text) := by
  refine startsCompound_append ?_ c text
  exact head?_ne_of_isBlank hs

theorem takeWhile_join (text rest : Text) :
    (text ++ s :: rest).takeWhile isWordLetter = text.takeWhile isWordLetter := by
  induction text with
  | nil => simp [not_isWordLetter_of_isBlank hs]
  | cons c text ih => rw [List.cons_append, List.takeWhile_cons, List.takeWhile_cons, ih]

theorem dropWhile_join (text rest : Text) :
    (text ++ s :: rest).dropWhile isWordLetter = text.dropWhile isWordLetter ++ s :: rest := by
  induction text with
  | nil => simp [not_isWordLetter_of_isBlank hs]
  | cons c text ih =>
    rw [List.cons_append, List.dropWhile_cons, List.dropWhile_cons, ih]
    split_ifs <;> rfl

theorem endsRun_join (c : Char) (text rest : Text) :
    endsRun (c :: (text ++ s :: rest)) = endsRun (c :: text) := by
  rw [endsRun, endsRun, startsCompound_join hs]
  rfl

theorem spanRun_join (text rest : Text) :
    spanRun (text ++ s :: rest) = ((spanRun text).1, (spanRun text).2 ++ s :: rest) := by
  induction text with
  | nil => exact spanRun_of_isBlank hs
  | cons c text ih =>
    rw [List.cons_append, spanRun, spanRun, endsRun_join hs, ih]
    split_ifs <;> rfl

/-- **The scanner stops at every blank**: it cuts the text in front of it and the text behind it
each as if it stood alone. -/
theorem scanText_join (text rest : Text) :
    scanText (text ++ s :: rest) = scanText text ++ scanText rest := by
  induction text using scanText_induction with
  | nil => rw [scanText_nil, List.nil_append, List.nil_append, scanText_blank hs]
  | blank c text hblank ih =>
    rw [List.cons_append, scanText_blank hblank, scanText_blank hblank, ih]
  | compound c text hop ih =>
    rw [List.cons_append, List.cons_append, scanText_compound hop, scanText_compound hop, ih]
    rfl
  | lone c text hcomp hkind ih =>
    rw [List.cons_append, scanText_lone (by rw [startsCompound_join hs, hcomp]) hkind,
      scanText_lone hcomp hkind, ih]
    rfl
  | word c text hk ih =>
    rw [List.cons_append, scanText_word hk, scanText_word hk, takeWhile_join hs, dropWhile_join hs,
      ih]
    rfl
  | run c text hends ih =>
    rw [List.cons_append, scanText_run hends, scanText_run (by rw [endsRun_join hs, hends]),
      spanRun_join hs, ih]
    rfl

end Blank

/-! ### Blanks at the ends -/

theorem scanText_blanks {u : Text} (hu : ∀ c ∈ u, isBlank c = true) (text : Text) :
    scanText (u ++ text) = scanText text := by
  induction u with
  | nil => rfl
  | cons c u ih =>
    rw [List.forall_mem_cons] at hu
    rw [List.cons_append, scanText_blank hu.1, ih hu.2]

theorem scanText_append_blanks {v : Text} (hv : ∀ c ∈ v, isBlank c = true) (text : Text) :
    scanText (text ++ v) = scanText text := by
  cases v with
  | nil => rw [List.append_nil]
  | cons c v =>
    rw [List.forall_mem_cons] at hv
    have hnil : scanText v = [] := by
      have hblanks := scanText_blanks hv.2 []
      rwa [List.append_nil, scanText_nil] at hblanks
    rw [scanText_join hv.1, hnil, List.append_nil]

/-- Every control character of the text is a blank. -/
def BlankControls (text : Text) : Prop := ∀ c ∈ text, c.toNat < 0x20 → isBlank c = true

instance (text : Text) : Decidable (BlankControls text) :=
  List.decidableBAll (fun c : Char => c.toNat < 0x20 → isBlank c = true) text

theorem BlankControls.isBlank_of_isEdge {text : Text} (h : BlankControls text) {c : Char}
    (hc : c ∈ text) (hedge : isEdge c = true) : isBlank c = true := by
  by_cases hcontrol : c.toNat < 0x20
  · exact h c hc hcontrol
  · have hle : c.toNat ≤ 0x20 := of_decide_eq_true hedge
    have hspace : c = ' ' := Char.toNat_inj.1 (by show c.toNat = 0x20; omega)
    rw [hspace]
    rfl

/-- Where trimming takes off blanks only, it changes no token. -/
theorem scanText_trim {text : Text} (h : BlankControls text) :
    scanText (trim text) = scanText text := by
  obtain ⟨u, v, hu, hv, htext⟩ := exists_ends text
  have hmem : ∀ c, c ∈ u ∨ c ∈ v → c ∈ text := by
    intro c hc
    rw [htext, List.mem_append, List.mem_append]
    exact hc.imp_left .inl
  have hub : ∀ c ∈ u, isBlank c = true := fun c hc =>
    h.isBlank_of_isEdge (hmem c (.inl hc)) (hu c hc)
  have hvb : ∀ c ∈ v, isBlank c = true := fun c hc =>
    h.isBlank_of_isEdge (hmem c (.inr hc)) (hv c hc)
  calc scanText (trim text)
      = scanText (trim text ++ v) := (scanText_append_blanks hvb _).symm
    _ = scanText (u ++ (trim text ++ v)) := (scanText_blanks hub _).symm
    _ = scanText text := by rw [← List.append_assoc, ← htext]

/-! ### Comments on either side of a blank -/

theorem removeComments_join {a b : Text} {s : Char}
    (hs : s = '\n' ∨ isBlank s = true ∧ ¬ ('#' ∈ a ∧ '#' ∈ b)) :
    removeComments (a ++ s :: b) = removeComments a ++ s :: removeComments b := by
  have hne : s ≠ '#' := by
    rintro rfl
    rcases hs with h | ⟨h, -⟩ <;> cases h
  have hcons : removeComments (s :: b) = s :: removeComments b :=
    removeComments_cons_of_none (if_neg hne)
  by_cases ha : '#' ∈ a
  · have hnone : lengthToMark? (s :: b) = none := by
      rcases hs with rfl | ⟨-, hmarks⟩
      · rfl
      · have hb : '#' ∉ s :: b := by
          rw [List.mem_cons, not_or]
          exact ⟨Ne.symm hne, fun hb => hmarks ⟨ha, hb⟩⟩
        have hend : ∀ c, ([] : Text).head? = some c → c = '\n' := by simp
        simpa using lengthToMark?_eq_none hb hend
    rw [removeComments_append hnone, hcons]
  · rw [removeComments_append_of_not_mem ha, hcons, removeComments_of_not_mem ha]

theorem tokens_of_blankControls {line : Text} (h : BlankControls line) :
    tokens line = scanText (removeComments line) := by
  have hkept : BlankControls (removeComments line) := fun c hc =>
    h c (mem_of_mem_removeComments hc)
  rw [tokens_of_scan rfl, scan, strip, ← removeComments_eq_cutComments, scanText_trim hkept]

theorem tokens_join {a b : Text} {s : Char} (ha : BlankControls a) (hb : BlankControls b)
    (hs : s = '\n' ∨ isBlank s = true ∧ ¬ ('#' ∈ a ∧ '#' ∈ b)) :
    tokens (a ++ s :: b) = tokens a ++ tokens b := by
  have hblank : isBlank s = true := by
    rcases hs with rfl | ⟨h, -⟩
    · rfl
    · exact h
  have hjoined : BlankControls (a ++ s :: b) := by
    intro c hc
    rcases List.mem_append.1 hc with hc | hc
    · exact ha c hc
    · rcases List.mem_cons.1 hc with rfl | hc
      · exact fun _ => hblank
      · exact hb c hc
  rw [tokens_of_blankControls hjoined, removeComments_join hs, scanText_join hblank,
    tokens_of_blankControls ha, tokens_of_blankControls hb]

end Line

/-- **Two texts on one line, with a blank between, come to the same as each on a line of its own**:
the blank is a line feed, or marks of comments stand on one side of it at most.  Neither text may
hold control characters other than blanks. -/
theorem Calculator.runLine_join {a b : Text} {s : Char} (ha : Line.BlankControls a)
    (hb : Line.BlankControls b)
    (hs : s = '\n' ∨ Line.isBlank s = true ∧ ¬ ('#' ∈ a ∧ '#' ∈ b)) :
    Line.tokens (a ++ s :: b) = Line.tokens a ++ Line.tokens b ∧
    ∀ (verbose : Bool) (c : Calculator),
      let first := c.runLine verbose a
      let second := first.calculator.runLine verbose b
      c.runLine verbose (a ++ s :: b) =
        ⟨second.calculator, first.out ++ second.out, first.err ++ second.err⟩ := by
  have htokens := Line.tokens_join ha hb hs
  refine ⟨htokens, fun verbose c => ?_⟩
  intro first second
  rw [runLine, htokens, runTokens_append]
  rfl

/-- Marks on both sides make no comment across a line feed, and `+` in front of it makes no compound
operator with the `=` behind it. -/
theorem Calculator.runLine_join_marks :
    let a := "3 4 #+".toList
    let b := "= #\tr".toList
    Line.BlankControls a ∧ Line.BlankControls b ∧
    (fresh.runLine false (a ++ '\n' :: b)).out =
      [.diagnostic (.unrecognised ['#']), .value 7, .diagnostic (.unrecognised ['#'])] := by
  intro a b
  have ha : Line.BlankControls a := by decide
  have hb : Line.BlankControls b := by decide
  refine ⟨ha, hb, ?_⟩
  rw [(runLine_join ha hb (.inl rfl)).2 false fresh]
  decide

end StackCalc
