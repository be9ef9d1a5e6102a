import Mathlib.Data.List.Nodup
import Mathlib.Data.List.TakeWhile
import StackCalc.CommandLine.Word

/-!
# StackCalc.Proofs.CommandLine.Words — which words stop the reading at once

Words are told apart before any flag takes effect, so a word that is refused there is refused
wherever it stands before the first separator, also behind `-e`.  The long flags part at their
first letter: a word that abbreviates two of them abbreviates all, and has nothing but `--` in front
of its equals sign (`exists_ofText`).  A list of words is told apart up to the first separator and
left alone from there on (`ofTexts_of_find?`, `exists_ofTexts`).  So a flag that takes every word
takes all but two kinds of them (`Takable`).
-/

namespace StackCalc.CommandLine

/-! ### Abbreviations of long flags -/

namespace Flag

theorem eq_of_long_letter (f g : Flag) : f.long[2]? = g.long[2]? → f = g := by
  cases f <;> cases g <;> decide

theorem nodup_all : all.Nodup := by decide

theorem long_letter_of_mem_ofBeginning {c : Char} {more : Text} {f : Flag}
    (h : f ∈ ofBeginning ('-' :: '-' :: c :: more)) : f.long[2]? = some c := by
  have hbegins := (List.mem_filter.1 h).2
  obtain ⟨rest, hrest⟩ := List.isPrefixOf_iff_prefix.1 hbegins
  rw [← hrest]
  rfl

/-- One letter behind the two minus signs is enough to tell the flag. -/
theorem ofBeginning_cases (c : Char) (more : Text) :
    ofBeginning ('-' :: '-' :: c :: more) = [] ∨
      ∃ f, ofBeginning ('-' :: '-' :: c :: more) = [f] := by
  match h : ofBeginning ('-' :: '-' :: c :: more) with
  | [] => exact .inl rfl
  | [f] => exact .inr ⟨f, rfl⟩
  | f :: g :: rest =>
    have hnodup : (f :: g :: rest).Nodup := by
      rw [← h]
      exact nodup_all.filter _
    have hletter : ∀ k ∈ f :: g :: rest, k.long[2]? = some c := by
      intro k hk
      rw [← h] at hk
      exact long_letter_of_mem_ofBeginning hk
    have hfg : f = g :=
      eq_of_long_letter f g ((hletter f (by simp)).trans (hletter g (by simp)).symm)
    rw [List.nodup_cons, hfg] at hnodup
    exact absurd List.mem_cons_self hnodup.1

end Flag

namespace Word

/-! ### Single words -/

/-- Whether a word abbreviates every long flag, with a value behind an equals sign. -/
def abbreviatesAll (word : Text) : Bool := ['-', '-', '='].isPrefixOf word

theorem abbreviatesAll_iff {word : Text} :
    abbreviatesAll word = true ↔ ∃ value, word = '-' :: '-' :: '=' :: value := by
  rw [abbreviatesAll, List.isPrefixOf_iff_prefix]
  constructor
  · rintro ⟨value, rfl⟩
    exact ⟨value, rfl⟩
  · rintro ⟨value, rfl⟩
    exact ⟨value, rfl⟩

theorem ofText_of_abbreviatesAll {word : Text} (h : abbreviatesAll word = true) :
    ofText word = .error (.ambiguous word Flag.all) := by
  obtain ⟨value, rfl⟩ := abbreviatesAll_iff.1 h
  rfl

theorem ofUnflagged_ne_separator (word : Text) : ofUnflagged word ≠ separator := by
  unfold ofUnflagged
  split <;> simp

/-- What stands in front of the first equals sign of a long word. -/
theorem cutValue_long {c : Char} (hc : c ≠ '=') (rest : Text) :
    ∃ more, (cutValue ('-' :: '-' :: c :: rest)).1 = '-' :: '-' :: c :: more := by
  refine ⟨rest.takeWhile (· != '='), ?_⟩
  simp [cutValue, hc]

/-- A long word with a letter of its own is no separator and is never refused. -/
theorem exists_ofText_long {c : Char} (hc : c ≠ '=') (rest : Text) :
    ∃ w, ofText ('-' :: '-' :: c :: rest) = .ok w ∧ w ≠ separator := by
  obtain ⟨more, hname⟩ := cutValue_long hc rest
  unfold ofText
  simp only [hname]
  cases Flag.ofSpelling? ('-' :: '-' :: c :: more) with
  | some f => exact ⟨_, rfl, by simp⟩
  | none =>
    rcases Flag.ofBeginning_cases c more with hnone | ⟨f, hone⟩
    · simp only [hnone, ↓reduceIte]
      exact ⟨_, rfl, ofUnflagged_ne_separator _⟩
    · simp only [hone, ↓reduceIte]
      exact ⟨_, rfl, by simp⟩

/-- A word with a single minus in front is never refused: short flags are not abbreviated. -/
theorem exists_ofText_short {second : Char} (h : second ≠ '-') (rest : Text) :
    ∃ w, ofText ('-' :: second :: rest) = .ok w ∧ w ≠ separator := by
  unfold ofText
  simp only [if_neg h]
  cases Flag.ofSpelling? (cutValue ('-' :: second :: rest)).1 with
  | some f => exact ⟨_, rfl, by simp⟩
  | none =>
    cases Flag.ofLetter? second with
    | some f => exact ⟨_, rfl, by simp⟩
    | none => exact ⟨_, rfl, ofUnflagged_ne_separator _⟩

/-- Every word but the separator and those that abbreviate every flag is told apart. -/
theorem exists_ofText {word : Text} (hsep : word ≠ separatorText)
    (h : abbreviatesAll word = false) : ∃ w, ofText word = .ok w ∧ w ≠ separator := by
  match word with
  | [] => exact ⟨plain, rfl, by simp⟩
  | [c] =>
    refine ⟨plain, ?_, by simp⟩
    unfold ofText
    split
    · next heq => cases heq
    · rfl
  | c :: second :: rest =>
    by_cases hc : c = '-'
    · subst hc
      by_cases hsecond : second = '-'
      · subst hsecond
        -- the separator itself is the one word of two minus signs alone
        match rest with
        | [] => exact absurd rfl hsep
        | third :: rest =>
          refine exists_ofText_long ?_ rest
          rintro rfl
          rw [abbreviatesAll_iff.2 ⟨rest, rfl⟩] at h
          cases h
      · exact exists_ofText_short hsecond rest
    · exact ⟨plain, ofText_of_head_ne (by simpa using hc), by simp⟩

theorem ofText_flag_short (f : Flag) : ofText f.short = .ok (flag f .nothing) := by
  cases f <;> rfl

/-! ### Lists of words -/

theorem ofTexts_separator (rest : List Text) :
    ofTexts (separatorText :: rest) =
      .ok ((separatorText, separator) :: rest.map fun text => (text, plain)) := by
  rw [ofTexts, if_pos rfl]

theorem ofTexts_cons {word : Text} {w : Word} (hsep : word ≠ separatorText)
    (h : ofText word = .ok w) (rest : List Text) :
    ofTexts (word :: rest) = (ofTexts rest).map ((word, w) :: ·) := by
  rw [ofTexts, if_neg hsep, h]
  cases ofTexts rest <;> rfl

theorem ofTexts_cons_of_error {word : Text} {e : UsageError} (hsep : word ≠ separatorText)
    (h : ofText word = .error e) (rest : List Text) : ofTexts (word :: rest) = .error e := by
  rw [ofTexts, if_neg hsep, h]
  rfl

/-- The words before the first separator. -/
def beforeSeparator (words : List Text) : List Text := words.takeWhile (· != separatorText)

/-- The words from the first separator on. -/
def fromSeparator (words : List Text) : List Text := words.dropWhile (· != separatorText)

theorem beforeSeparator_cons {word : Text} (h : word ≠ separatorText) (rest : List Text) :
    beforeSeparator (word :: rest) = word :: beforeSeparator rest :=
  List.takeWhile_cons_of_pos (by simpa using h)

theorem fromSeparator_cons {word : Text} (h : word ≠ separatorText) (rest : List Text) :
    fromSeparator (word :: rest) = fromSeparator rest :=
  List.dropWhile_cons_of_pos (by simpa using h)

theorem beforeSeparator_of_not_mem {words : List Text} (h : separatorText ∉ words) :
    beforeSeparator words = words := by
  refine List.takeWhile_eq_self_iff.2 fun word hword => ?_
  rw [bne_iff_ne]
  rintro rfl
  exact h hword

theorem fromSeparator_eq_nil_iff {words : List Text} :
    fromSeparator words = [] ↔ separatorText ∉ words := by
  rw [fromSeparator, List.dropWhile_eq_nil_iff]
  constructor
  · intro h hmem
    simpa using h _ hmem
  · intro h word hword
    rw [bne_iff_ne]
    rintro rfl
    exact h hword

/-- The first word that abbreviates every flag stops the reading, unless a separator is met
before. -/
theorem ofTexts_of_find? {words : List Text} {word : Text}
    (h : (beforeSeparator words).find? abbreviatesAll = some word) :
    ofTexts words = .error (.ambiguous word Flag.all) := by
  induction words with
  | nil => cases h
  | cons first rest ih =>
    by_cases hsep : first = separatorText
    · subst hsep
      cases h
    · -- a word is refused before the words behind it are looked at
      rw [beforeSeparator_cons hsep] at h
      cases hfirst : abbreviatesAll first with
      | true =>
        rw [List.find?_cons_of_pos hfirst] at h
        cases h
        exact ofTexts_cons_of_error hsep (ofText_of_abbreviatesAll hfirst) rest
      | false =>
        rw [List.find?_cons_of_neg (by simp [hfirst])] at h
        obtain ⟨w, hw, -⟩ := exists_ofText hsep hfirst
        rw [ofTexts_cons hsep hw, ih h]
        rfl

/-- Without such a word, every word is told apart, and the separator is found where it stands. -/
theorem exists_ofTexts {words : List Text}
    (h : (beforeSeparator words).find? abbreviatesAll = none) :
    ∃ ws, ofTexts words = .ok ws ∧
      (ws.takeWhile (·.2 != separator)).map Prod.fst = beforeSeparator words ∧
      (ws.dropWhile (·.2 != separator)).map Prod.fst = fromSeparator words := by
  induction words with
  | nil => exact ⟨[], rfl, rfl, rfl⟩
  | cons first rest ih =>
    by_cases hsep : first = separatorText
    · subst hsep
      refine ⟨_, ofTexts_separator rest, rfl, ?_⟩
      show separatorText :: (rest.map fun text => (text, plain)).map Prod.fst =
        separatorText :: rest
      rw [List.map_map]
      simp [Function.comp_def]
    · rw [beforeSeparator_cons hsep] at h ⊢
      rw [fromSeparator_cons hsep]
      rw [List.find?_eq_none, List.forall_mem_cons, ← List.find?_eq_none] at h
      obtain ⟨hfirst, hrest⟩ := h
      rw [Bool.not_eq_true] at hfirst
      obtain ⟨w, hw, hwsep⟩ := exists_ofText hsep hfirst
      obtain ⟨ws, hws, hbefore, hfrom⟩ := ih hrest
      have hne : (w != separator) = true := by simpa using hwsep
      refine ⟨(first, w) :: ws, ?_, ?_, ?_⟩
      · rw [ofTexts_cons hsep hw, hws]
        rfl
      · rw [List.takeWhile_cons, if_pos hne, List.map_cons, hbefore]
      · rw [List.dropWhile_cons, if_pos hne, hfrom]

/-! ### Words that a flag can take -/

/-- The word is taken by a flag that takes every word: it is no separator, and does not abbreviate
every flag. -/
def Takable (word : Text) : Prop := word ≠ separatorText ∧ ¬ ['-', '-', '='] <+: word

instance (word : Text) : Decidable (Takable word) := inferInstanceAs (Decidable (_ ∧ _))

theorem abbreviatesAll_eq_false_iff {word : Text} :
    abbreviatesAll word = false ↔ ¬ ['-', '-', '='] <+: word := by
  rw [← List.isPrefixOf_iff_prefix, Bool.not_eq_true]
  rfl

theorem takable_of_not_prefix {word : Text} (h : ¬ separatorText <+: word) : Takable word := by
  refine ⟨?_, fun hall => h ((List.prefix_append separatorText ['=']).trans hall)⟩
  rintro rfl
  exact h (List.prefix_refl _)

/-- All words are taken where none is refused and none is left over. -/
theorem forall_takable_iff {words : List Text} :
    (∀ word ∈ words, Takable word) ↔
      (beforeSeparator words).find? abbreviatesAll = none ∧ fromSeparator words = [] := by
  constructor
  · intro h
    have hmem : separatorText ∉ words := fun hmem => (h _ hmem).1 rfl
    refine ⟨?_, fromSeparator_eq_nil_iff.2 hmem⟩
    rw [beforeSeparator_of_not_mem hmem, List.find?_eq_none]
    intro word hword
    rw [Bool.not_eq_true, abbreviatesAll_eq_false_iff]
    exact (h word hword).2
  · rintro ⟨hfind, hfrom⟩ word hword
    have hmem := fromSeparator_eq_nil_iff.1 hfrom
    rw [beforeSeparator_of_not_mem hmem, List.find?_eq_none] at hfind
    have hplain := hfind word hword
    rw [Bool.not_eq_true, abbreviatesAll_eq_false_iff] at hplain
    refine ⟨?_, hplain⟩
    rintro rfl
    exact hmem hword

/-- What is wrong with words that are not all takable: one before the separator is refused, or else
the separator is left over with all that follows. -/
def untakable (words : List Text) : UsageError :=
  match (beforeSeparator words).find? abbreviatesAll with
  | some word => .ambiguous word Flag.all
  | none => .unrecognised (fromSeparator words)

end Word

end StackCalc.CommandLine
