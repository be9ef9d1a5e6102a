import StackCalc.CommandLine.Settings
import StackCalc.Proofs.CommandLine.Words

/-!
# StackCalc.Proofs.CommandLine.Reading — command lines read from the left

A flag without a value that stands first changes the settings and leaves the rest to be read
(`ofTextsWith_bare`), so a command line is read flag by flag.  `-e` then takes every word that
follows, up to the separator: flags, numbers and empty words alike (`ofTextsWith_expression`).  `-p`
takes the word behind it where that word does not begin with a minus (`ofTextsWith_prompt`).
-/

namespace StackCalc.CommandLine

/-! ### Orders that take effect -/

theorem Settings.add_of_not_gives {s : Settings} {o : Order} {rival : Flag}
    (ho : o.flag.rival? = some rival) (h : s.gives rival = false) : s.add o = .ok (s.set o) := by
  rw [Settings.add, ho]
  simp only [h]
  rfl

namespace Reading

theorem ofEvents_order {s s' : Settings} {o : Order} (ho : o ≠ .help) (hadd : s.add o = .ok s')
    (strays : List Text) (rest : List Event) :
    ofEvents s strays (.order o :: rest) = ofEvents s' strays rest := by
  cases o with
  | help => exact absurd rfl ho
  | verbose | expression | prompt | rawGrammar | dump => rw [ofEvents, hadd]; simp

/-! ### Words left over -/

theorem ofEvents_strays (s : Settings) (strays words : List Text) :
    ofEvents s strays (words.map .stray) =
      if strays ++ words = [] then accepted s else refused (.unrecognised (strays ++ words)) := by
  induction words generalizing strays with
  | nil => rw [List.append_nil]; rfl
  | cons word rest ih =>
    rw [List.map_cons, ofEvents, ih, List.append_assoc, List.singleton_append]

/-! ### Flags that stand first -/

theorem short_ne_separatorText (f : Flag) : f.short ≠ separatorText := by
  cases f <;> decide

/-- The reading of words once other words have come to settings. -/
def ofTextsWith (s : Settings) (words : List Text) : Reading :=
  match Word.ofTexts words with
  | .ok ws => ofEvents s [] (Event.ofWords ws)
  | .error e => refused e

theorem ofTextsWith_nil (s : Settings) : ofTextsWith s [] = accepted s := rfl

/-- A short flag alone in the first word is read before anything else. -/
theorem ofTextsWith_short (s : Settings) (f : Flag) (words : List Text) :
    ofTextsWith s (f.short :: words) =
      match Word.ofTexts words with
      | .ok ws => ofEvents s [] (Event.ofWords ((f.short, .flag f .nothing) :: ws))
      | .error e => refused e := by
  rw [ofTextsWith, Word.ofTexts_cons (short_ne_separatorText f) (Word.ofText_flag_short f)]
  cases Word.ofTexts words <;> rfl

/-- A flag that takes no value changes the settings and leaves the rest to be read. -/
theorem ofTextsWith_bare {f : Flag} (hf : f = .verbose ∨ f = .rawGrammar ∨ f = .dump)
    {s s' : Settings} (hadd : s.add f.bare = .ok s') (words : List Text) :
    ofTextsWith s (f.short :: words) = ofTextsWith s' words := by
  have hbare : f.bare ≠ .help := by
    rcases hf with rfl | rfl | rfl <;> simp [Flag.bare]
  have hevents (ws : List (Text × Word)) : Event.ofWords ((f.short, .flag f .nothing) :: ws) =
      .order f.bare :: Event.ofWords ws := by
    rcases hf with rfl | rfl | rfl <;> rfl
  rw [ofTextsWith_short, ofTextsWith]
  cases Word.ofTexts words with
  | error e => rfl
  | ok ws => simp only [hevents, ofEvents_order hbare hadd]

/-! ### Words behind `-e` -/

/-- **What `-e` takes**: every word that follows, whatever it looks like, unless one of them is not
takable; then it takes none. -/
theorem ofTextsWith_expression {s : Settings} (hs : s.prompt? = none) (words : List Text) :
    ofTextsWith s (Flag.expression.short :: words) =
      if ∀ word ∈ words, Word.Takable word then accepted { s with expressions? := some words }
      else refused (Word.untakable words) := by
  rw [ofTextsWith_short, Word.untakable]
  simp only [Word.forall_takable_iff]
  cases hfind : (Word.beforeSeparator words).find? Word.abbreviatesAll with
  | some word => rw [Word.ofTexts_of_find? hfind, if_neg (by simp)]
  | none =>
    obtain ⟨ws, hws, hbefore, hfrom⟩ := Word.exists_ofTexts hfind
    have hevents : Event.ofWords ((Flag.expression.short, .flag .expression .nothing) :: ws) =
        .order (.expression (Word.beforeSeparator words)) ::
          (Word.fromSeparator words).map .stray := by
      rw [← hbefore, ← hfrom, List.map_map]
      rfl
    have hadd : s.add (.expression (Word.beforeSeparator words)) =
        .ok { s with expressions? := some (Word.beforeSeparator words) } :=
      Settings.add_of_not_gives rfl (by rw [Settings.gives, hs]; rfl)
    simp only [hws, hevents, ofEvents_order (by simp) hadd, ofEvents_strays, List.nil_append,
      true_and]
    split_ifs with hall
    · rw [Word.beforeSeparator_of_not_mem (Word.fromSeparator_eq_nil_iff.1 hall)]
    · rfl

/-- Words that do not begin with two minuses are all taken. -/
theorem ofTextsWith_expression_of_not_prefix {s : Settings} (hs : s.prompt? = none)
    {words : List Text} (h : ∀ word ∈ words, ¬ separatorText <+: word) :
    ofTextsWith s (Flag.expression.short :: words) =
      accepted { s with expressions? := some words } := by
  have htaken : ∀ word ∈ words, Word.Takable word := fun word hword =>
    Word.takable_of_not_prefix (h word hword)
  rw [ofTextsWith_expression hs, if_pos htaken]

/-! ### The word behind `-p` -/

/-- A word that does not begin with a minus is a prompt, and nothing is left over. -/
theorem ofTextsWith_prompt {s : Settings} (hs : s.expressions? = none) {prompt : Text}
    (h : prompt.head? ≠ some '-') :
    ofTextsWith s [Flag.prompt.short, prompt] = accepted { s with prompt? := some prompt } := by
  have hsep : prompt ≠ separatorText := by
    rintro rfl
    exact h rfl
  have hadd : s.add (.prompt prompt) = .ok { s with prompt? := some prompt } :=
    Settings.add_of_not_gives rfl (by rw [Settings.gives, hs]; rfl)
  have hwords : Word.ofTexts [prompt] = .ok [(prompt, .plain)] := by
    rw [Word.ofTexts_cons hsep (Word.ofText_of_head_ne h)]
    rfl
  rw [ofTextsWith_short, hwords]
  show ofEvents s [] [.order (.prompt prompt)] = _
  rw [ofEvents_order (by simp) hadd]
  rfl

end Reading

end StackCalc.CommandLine
