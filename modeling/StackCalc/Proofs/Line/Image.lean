import StackCalc.Proofs.Line.Rendering

/-!
# StackCalc.Proofs.Line.Image — what the tokens of a line are

Comments go, the ends are trimmed and blanks separate; every other character of a line is in its
tokens, once and in its place (`tokens_lossless`).

Each token is well formed, as the scanner cuts nothing else off (`wellFormed_of_mem_scanText`).  On
a line without line feeds one mark is left at most.  So the tokens of such a line are a `Normal`
list; and as a `Normal` list is read back from its line, these lists are all there are.  Hence a
line in normal form is its own normal form (`tokens_image`).
-/

namespace StackCalc.Line

/-! ### No character is lost -/

theorem flatten_tokens (line : Text) :
    (tokens line).flatten = (strip line).filter (!isBlank ·) :=
  (spaced_tokens line).flatten.trans (filter_padded .other (strip line))

/-- **The tokens of a line hold what is left of it without comments, ends and blanks**: nothing of
that is lost, doubled or moved.  No token is empty or holds a blank, and the normal form of the line
has the tokens with single spaces between. -/
theorem tokens_lossless (line : Text) :
    (tokens line).flatten = (trim (cutComments line)).filter (!isBlank ·) ∧
      (∀ token ∈ tokens line, token ≠ [] ∧ ∀ c ∈ token, isBlank c = false) ∧
      normalize line = [' '].intercalate (tokens line) := by
  refine ⟨flatten_tokens line, fun token htoken => ?_, (intercalate_tokens line).symm⟩
  exact ⟨(spaced_tokens line).ne_nil token htoken, not_isBlank_of_mem_tokens htoken⟩

/-- What stands around a comment is glued together, and what is set apart keeps its order. -/
theorem tokens_lossless_glued :
    let line := "\x02 1#2 3#0rd-=\n#+ ".toList
    let token := "10".toList
    token ∈ tokens line ∧ (token ≠ [] ∧ ∀ c ∈ token, isBlank c = false) ∧
      (tokens line).flatten = "10rd-=#+".toList ∧ normalize line = "10 r d -= # +".toList := by
  intro line token
  obtain ⟨hflat, htokens, hnormal⟩ := tokens_lossless line
  have hmem : token ∈ tokens line := by decide
  exact ⟨hmem, htokens token hmem, hflat.trans (by decide), hnormal.trans (by decide)⟩

/-! ### Every token is well formed -/

/-- The scanner cuts off well-formed tokens only. -/
theorem wellFormed_of_mem_scanText {text token : Text} (h : token ∈ scanText text) :
    WellFormed token := by
  induction text using scanText_induction with
  | nil =>
    rw [scanText_nil] at h
    cases h
  | blank c rest hblank ih =>
    rw [scanText_blank hblank] at h
    exact ih h
  | compound c rest hop ih =>
    rw [scanText_compound hop] at h
    rcases List.mem_cons.1 h with rfl | h
    · exact ⟨by simp, .inr (.inl ⟨c, hop, rfl⟩)⟩
    · exact ih h
  | lone c rest hcomp hkind ih =>
    rw [scanText_lone hcomp hkind] at h
    rcases List.mem_cons.1 h with rfl | h
    · refine ⟨by simp, ?_⟩
      rcases hkind with ha | hsingle
      · exact .inl ⟨c, ha, rfl⟩
      · exact .inr (.inr (.inl ⟨c, hsingle, rfl⟩))
    · exact ih h
  | word c rest hk ih =>
    rw [scanText_word hk] at h
    rcases List.mem_cons.1 h with rfl | h
    · have hletters : ∀ d ∈ c :: rest.takeWhile isWordLetter, isWordLetter d = true :=
        List.forall_mem_cons.2 ⟨isWordLetter_iff.2 hk, fun d hd => List.mem_takeWhile_imp hd⟩
      exact ⟨by simp, .inr (.inr (.inr (.inl hletters)))⟩
    · exact ih h
  | run c rest hends ih =>
    rw [scanText_run hends] at h
    rcases List.mem_cons.1 h with rfl | h
    · exact ⟨by simp, .inr (.inr (.inr (.inr (isRun_cons_spanRun hends))))⟩
    · exact ih h

/-! ### One mark is left at most -/

theorem mark_not_mem_beforeMark (text : Text) : '#' ∉ beforeMark text := by
  intro hmem
  have hne := List.mem_takeWhile_imp hmem
  exact absurd hne (by decide)

theorem mark_not_mem_behindMark (text : Text) : '#' ∉ behindMark text := by
  rw [behindMark, List.mem_reverse]
  exact mark_not_mem_beforeMark text.reverse

theorem count_cutComment_le (stretch : Text) : (cutComment stretch).count '#' ≤ 1 := by
  by_cases hcount : 2 ≤ stretch.count '#'
  · rw [cutComment, if_pos hcount, List.count_append,
      List.count_eq_zero_of_not_mem (mark_not_mem_beforeMark stretch),
      List.count_eq_zero_of_not_mem (mark_not_mem_behindMark stretch)]
    decide
  · rw [cutComment_of_count_lt (by omega)]
    omega

theorem trim_sublist (text : Text) : (trim text).Sublist text := by
  obtain ⟨u, v, -, -, htext⟩ := exists_ends text
  have hinfix : trim text <:+: text := ⟨u, v, htext.symm⟩
  exact hinfix.sublist

/-! ### Normal lists and no others -/

/-- The tokens of a line without line feeds are normal. -/
theorem normal_tokens {line : Text} (h : '\n' ∉ line) : Normal (tokens line) := by
  have htrimmed : Trimmed (tokens line).flatten := by
    rw [tokens_of_scan rfl]
    exact trimmed_flatten_scan line
  refine ⟨fun token htoken => ?_, htrimmed.head, htrimmed.last, ?_⟩
  · rw [tokens_of_scan rfl] at htoken
    exact wellFormed_of_mem_scanText htoken
  · calc (tokens line).flatten.count '#'
        ≤ (strip line).count '#' := by
          rw [flatten_tokens]
          exact List.filter_sublist.count_le '#'
      _ ≤ (cutComments line).count '#' := (trim_sublist _).count_le '#'
      _ ≤ 1 := by
          rw [cutComments_of_not_mem h]
          exact count_cutComment_le line

/-- What is read off a normal form are the tokens of the line that it comes from. -/
theorem tokens_normalize {line : Text} (h : '\n' ∉ line) :
    tokens (normalize line) = tokens line := by
  rw [← intercalate_tokens line, tokens_intercalate (normal_tokens h)]

theorem WellFormed.not_isBlank {token : Text} (h : WellFormed token) :
    ∀ c ∈ token, isBlank c = false := by
  obtain ⟨-, ⟨c, ha, rfl⟩ | ⟨c, hop, rfl⟩ | ⟨c, hs, rfl⟩ | hword | hrun⟩ := h
  · rw [List.forall_mem_singleton]
    exact not_isBlank_of_lone (.inl ha)
  · rw [List.forall_mem_cons, List.forall_mem_singleton]
    exact ⟨not_isBlank_of_isEdge (isEdge_of_isOperator hop), rfl⟩
  · rw [List.forall_mem_singleton]
    exact not_isBlank_of_lone (.inr hs)
  · exact fun c hc => not_isBlank_of_isWordLetter (hword c hc)
  · exact fun c hc => (hrun.1 c hc).1

theorem not_mem_intercalate {c : Char} (hc : c ≠ ' ') {ts : List Text} (h : ∀ w ∈ ts, c ∉ w) :
    c ∉ [' '].intercalate ts := by
  induction ts with
  | nil => simp
  | cons w ts ih =>
    rw [List.forall_mem_cons] at h
    cases ts with
    | nil => simpa using h.1
    | cons v ts =>
      rw [List.intercalate_cons_cons]
      simp only [List.mem_append, List.mem_singleton, not_or]
      exact ⟨⟨h.1, hc⟩, ih h.2⟩

/-- **The tokens of lines without line feeds are the normal lists**: what comes of such a line is
normal, and each normal list comes of the line that it is written out to.  A normal form is its own
normal form and has the tokens of its line. -/
theorem tokens_image :
    (∀ line, '\n' ∉ line → Normal (tokens line)) ∧
    (∀ ts, Normal ts →
      '\n' ∉ [' '].intercalate ts ∧ tokens ([' '].intercalate ts) = ts) ∧
    ∀ line, '\n' ∉ line →
      normalize (normalize line) = normalize line ∧ tokens (normalize line) = tokens line := by
  refine ⟨fun line h => normal_tokens h, fun ts h => ⟨?_, tokens_intercalate h⟩, fun line h => ?_⟩
  · refine not_mem_intercalate (by decide) fun w hw hmem => ?_
    cases (h.1 w hw).not_isBlank '\n' hmem
  · have htokens := tokens_normalize h
    refine ⟨?_, htokens⟩
    rw [← intercalate_tokens (normalize line), htokens, intercalate_tokens]

/-- A comment that glues an operator to the `=` behind it, and control characters, of which those at
the ends are trimmed. -/
theorem tokens_image_glued :
    let line := "\x01 4+#a #=r-=\x01xd5 -\t\x02".toList
    let ts := ["4", "+=", "r", "-=", "\x01", "x", "d", "5", "-"].map String.toList
    '\n' ∉ line ∧ tokens line = ts ∧ Normal ts ∧ tokens ([' '].intercalate ts) = ts ∧
      normalize (normalize line) = [' '].intercalate ts := by
  intro line ts
  obtain ⟨hnormal, hread, hagain⟩ := tokens_image
  have hfeed : '\n' ∉ line := by decide
  have htokens : tokens line = ts := by decide
  have hts : Normal ts := htokens ▸ hnormal line hfeed
  refine ⟨hfeed, htokens, hts, (hread ts hts).2, ?_⟩
  rw [(hagain line hfeed).1, ← htokens, intercalate_tokens]

end StackCalc.Line
