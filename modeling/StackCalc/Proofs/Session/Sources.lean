import StackCalc.Proofs.CommandLine.Reading
import StackCalc.Proofs.Line.Feeds
import StackCalc.Session

/-!
# StackCalc.Proofs.Session.Sources — where lines come from makes no difference to them

A session that calculates puts out what its lines come to on a fresh calculator; where the lines
come from decides on the exit status and the prompts only (`ofSettings_of_source`).  So the
same lines give the same output behind `-e`, on standard input and at a prompt
(`run_eq_of_same_lines`).

Each time a prompt is shown, it meets a line or the end of typing.  So a dialogue has one prompt for
each line and one more for its end, by induction on what the prompts meet (`Dialogue.paced_askAll`,
`Console.dialogue_eq`).

Two flags do less than their help makes one expect.  `-e` takes every word that follows but for the
separator, and cannot be used at all where a word abbreviates every flag.  `-p` asks for lines with
the prompt that it is given, but an empty prompt is as good as none.
-/

namespace StackCalc

open CommandLine

/-! ### Lines on a calculator -/

/-- Nothing goes to the error stream of a run that is not verbose. -/
theorem Calculator.err_runLines (c : Calculator) (ls : List Text) :
    (c.runLines false ls).err = [] := by
  rw [runLines_eq_runTokens, err_runTokens, List.flatMap_eq_nil_iff]
  intro o _
  rfl

/-- Lines with the same tokens come to the same. -/
theorem Calculator.runLines_eq_of_tokens {ls ls' : List Text}
    (h : ls.flatMap Line.tokens = ls'.flatMap Line.tokens) (verbose : Bool) (c : Calculator) :
    c.runLines verbose ls = c.runLines verbose ls' := by
  rw [runLines_eq_runTokens, h, runLines_eq_runTokens]

/-! ### Asking for lines -/

namespace Dialogue

/-- All prompts are the same, one for each line handed on and one that met the end of typing, if it
has been met. -/
def Paced (prompt : Text) (d : Dialogue) : Prop :=
  d.prompts = List.replicate (d.lines.length + d.ended?.toList.length) prompt

theorem paced_opening (prompt : Text) : opening.Paced prompt := rfl

variable {prompt : Text} {d : Dialogue}

theorem paced_ask (hopen : d.ended? = none) (h : d.Paced prompt) (reply : Reply) :
    (d.ask prompt reply).Paced prompt := by
  rw [Paced, hopen] at h
  cases reply with
  | line text =>
    rw [ask, Paced, h, hopen, List.length_append, ← List.replicate_succ']
    rfl
  | ended ending =>
    rw [ask, Paced, h, ← List.replicate_succ']
    rfl

theorem askAll_of_open (hopen : d.ended? = none) (reply : Reply) (rest : List Reply) :
    d.askAll prompt (reply :: rest) = (d.ask prompt reply).askAll prompt rest := by
  rw [askAll, hopen]
  rfl

theorem askAll_of_ended (hended : d.ended?.isSome = true) (replies : List Reply) :
    d.askAll prompt replies = d := by
  cases replies with
  | nil => rfl
  | cons reply rest => exact if_pos hended

/-- The prompts keep pace with the lines, however typing goes and whether or not it ends. -/
theorem paced_askAll (h : d.Paced prompt) (replies : List Reply) :
    (d.askAll prompt replies).Paced prompt := by
  induction replies generalizing d with
  | nil => exact h
  | cons reply rest ih =>
    cases hended : d.ended? with
    | none =>
      rw [askAll_of_open hended]
      exact ih (paced_ask hended h reply)
    | some ending =>
      rw [askAll_of_ended (by rw [hended]; rfl)]
      exact h

/-- The lines typed are handed on up to the first end of typing, and nothing behind it is met. -/
theorem askAll_typed (hopen : d.ended? = none) (typed : List Text) (ending : Ending)
    (behind : List Reply) :
    let last := d.askAll prompt (typed.map .line ++ .ended ending :: behind)
    last.lines = d.lines ++ typed ∧ last.ended? = some ending := by
  induction typed generalizing d with
  | nil =>
    rw [List.map_nil, List.nil_append, askAll_of_open hopen, askAll_of_ended rfl]
    exact ⟨(List.append_nil _).symm, rfl⟩
  | cons text rest ih =>
    rw [List.map_cons, List.cons_append, askAll_of_open hopen]
    obtain ⟨hlines, hended⟩ := ih (d := d.ask prompt (.line text)) hopen
    exact ⟨hlines.trans (List.append_assoc _ [text] rest), hended⟩

end Dialogue

/-- A prompt is shown once for each line typed and once more when typing ends, and hands on every
line. -/
theorem Console.dialogue_eq (console : Console) (prompt : Text) :
    console.dialogue prompt =
      ⟨List.replicate (console.typed.length + 1) prompt, console.typed, some console.ending⟩ := by
  have hpaced : (console.dialogue prompt).Paced prompt :=
    Dialogue.paced_askAll (Dialogue.paced_opening prompt) console.replies
  obtain ⟨hlines, hended⟩ : (console.dialogue prompt).lines = console.typed ∧
      (console.dialogue prompt).ended? = some console.ending :=
    Dialogue.askAll_typed rfl console.typed console.ending []
  rw [Dialogue.Paced, hlines, hended] at hpaced
  exact Dialogue.ext hpaced hlines hended

namespace Session

/-! ### Sessions that calculate -/

theorem run_of_accepted {words : List Text} {s : Settings} (h : Reading.ofTexts words = .accepted s)
    (console : Console) : run words console = ofSettings s console := by
  rw [run, h]

theorem run_of_refused {words : List Text} {e : UsageError}
    (h : Reading.ofTexts words = .refused e) (console : Console) :
    run words console = ⟨2, [], [e.report], []⟩ := by
  rw [run, h]

/-- What a session that calculates leaves behind: its lines decide on the output, the source they
come from on the rest. -/
theorem ofSettings_of_source {s : Settings} (hs : s.task = .calculate) {console : Console}
    {source : Source}
    (hsource : s.source (console.inputIsTerminal && console.outputIsTerminal) = source) :
    let t := Calculator.fresh.runLines s.verbose (source.lines console)
    ofSettings s console =
      ⟨source.status console, t.out.map Report.text, t.err.map Fault.trace,
        source.prompts console⟩ := by
  have hreads : s.readsLines = true := by rw [Settings.readsLines, hs]; rfl
  intro t
  rw [ofSettings, if_pos hreads, hsource]
  simp only [Settings.answer, Settings.head, hs, List.nil_append]
  rfl

/-- A session with lines of its own looks at neither input nor terminals. -/
theorem ofSettings_given (verbose : Bool) (ls : List Text) (console : Console) :
    let t := Calculator.fresh.runLines verbose ls
    ofSettings ⟨verbose, some ls, none, .calculate⟩ console =
      ⟨0, t.out.map Report.text, t.err.map Fault.trace, []⟩ :=
  ofSettings_of_source rfl rfl

/-- A session that reads standard input and finds lines on it. -/
theorem ofSettings_input {s : Settings} (hs : s.task = .calculate) {console : Console}
    (hsource : s.source (console.inputIsTerminal && console.outputIsTerminal) = .input)
    {ls : List Text} (hinput : console.input.Holds ls)
    (hls : ∀ line ∈ ls, '\r' ∉ line ∧ '\n' ∉ line) :
    let t := Calculator.fresh.runLines s.verbose ls
    ofSettings s console = ⟨0, t.out.map Report.text, t.err.map Fault.trace, []⟩ := by
  have hunified : Text.unifyLineEnds console.input = console.input :=
    Text.unifyLineEnds_of_not_mem (hinput.not_mem (by decide) fun line hline => (hls line hline).1)
  have hlines : Calculator.fresh.runLines s.verbose (Source.input.lines console) =
      Calculator.fresh.runLines s.verbose ls := by
    refine Calculator.runLines_eq_of_tokens ?_ s.verbose _
    rw [Source.lines, hunified]
    exact Line.flatMap_tokens_lines hinput fun line hline => (hls line hline).2
  intro t
  rw [ofSettings_of_source hs hsource, hlines]
  rfl

/-- A session that asks for lines with a prompt. -/
theorem ofSettings_prompted {s : Settings} (hs : s.task = .calculate) {console : Console}
    {prompt : Text}
    (hsource : s.source (console.inputIsTerminal && console.outputIsTerminal) = .prompted prompt) :
    let t := Calculator.fresh.runLines s.verbose console.typed
    ofSettings s console =
      ⟨if console.ending = .interrupt then 1 else 0, t.out.map Report.text,
        t.err.map Fault.trace, List.replicate (console.typed.length + 1) prompt⟩ := by
  intro t
  rw [ofSettings_of_source hs hsource]
  simp only [Source.status, Source.lines, Source.prompts, console.dialogue_eq prompt,
    Option.some.injEq]
  rfl

/-! ### Words behind `-e` -/

/-- **What becomes of the words behind `-e`**, on every console: they are run as lines, each as it
stands, unless one of them is the separator or has nothing but `--` in front of its first equals
sign.  Then the command line is refused, and no line is run. -/
theorem run_expression (words : List Text) (console : Console) :
    run (['-', 'e'] :: words) console =
      if ∀ word ∈ words, word ≠ ['-', '-'] ∧ ¬ ['-', '-', '='] <+: word then
        ⟨0, (Calculator.fresh.runLines false words).out.map Report.text, [], []⟩
      else ⟨2, [], [(Word.untakable words).report], []⟩ := by
  have hreading : Reading.ofTexts (['-', 'e'] :: words) =
      if ∀ word ∈ words, Word.Takable word then .accepted ⟨false, some words, none, .calculate⟩
      else .refused (Word.untakable words) :=
    Reading.ofTextsWith_expression (s := .initial) rfl words
  by_cases htaken : ∀ word ∈ words, Word.Takable word
  · rw [if_pos htaken] at hreading
    refine (run_of_accepted hreading console).trans ?_
    refine (ofSettings_given false words console).trans ?_
    rw [Calculator.err_runLines]
    exact (if_pos htaken).symm
  · rw [if_neg htaken] at hreading
    exact (run_of_refused hreading console).trans (if_neg htaken).symm

/-- Not every word behind `-e` is run as a line: the separator is not, and ends what `-e` takes,
and `--=`, which the calculator would run as `-` and `-=`, abbreviates every flag. -/
theorem expression_refuses :
    ¬ ∀ (words : List Text) (console : Console), run (['-', 'e'] :: words) console =
      ⟨0, (Calculator.fresh.runLines false words).out.map Report.text, [], []⟩ := by
  intro h
  have hstatus := congrArg status (h [['-', '-', '=']] ⟨[], false, false, [], .endOfInput⟩)
  revert hstatus
  decide

/-! ### The same lines from every source -/

/-- The settings of a command line that only asks for verbose output, if at all. -/
theorem ofTexts_verbose (verbose : Bool) (words : List Text) :
    Reading.ofTexts ((if verbose then [['-', 'v']] else []) ++ words) =
      Reading.ofTextsWith { Settings.initial with verbose := verbose } words := by
  cases verbose with
  | false => rfl
  | true => exact Reading.ofTextsWith_bare (f := .verbose) (.inl rfl) rfl words

/-- **The same lines come to the same from every source**: given behind `-e`, read from a text on
standard input, or typed at a prompt, to the end or to an interrupt.  Source and ending decide on
the exit status and the prompts alone. -/
theorem run_eq_of_same_lines (verbose : Bool) (ls : List Text)
    (h : ∀ line ∈ ls, '\r' ∉ line ∧ '\n' ∉ line ∧ ¬ ['-', '-'] <+: line) :
    let flags : List Text := if verbose then [['-', 'v']] else []
    let t := Calculator.fresh.runLines verbose ls
    let out := t.out.map Report.text
    let err := t.err.map Fault.trace
    let prompts := List.replicate (ls.length + 1) ['>', ' ']
    (∀ console, run (flags ++ ['-', 'e'] :: ls) console = ⟨0, out, err, []⟩) ∧
    (∀ console : Console, console.input.Holds ls →
      ¬ (console.inputIsTerminal = true ∧ console.outputIsTerminal = true) →
      run flags console = ⟨0, out, err, []⟩) ∧
    (∀ input, run flags ⟨input, true, true, ls, .endOfInput⟩ = ⟨0, out, err, prompts⟩) ∧
    (∀ input, run flags ⟨input, true, true, ls, .interrupt⟩ = ⟨1, out, err, prompts⟩) := by
  intro flags t out err prompts
  have hflags : Reading.ofTexts flags = .accepted { Settings.initial with verbose := verbose } := by
    have hreading := ofTexts_verbose verbose []
    rw [List.append_nil, Reading.ofTextsWith_nil] at hreading
    exact hreading
  refine ⟨fun console => ?_, fun console hinput hterminals => ?_, fun input => ?_, fun input => ?_⟩
  · have htaken : ∀ word ∈ ls, Word.Takable word := fun word hword =>
      Word.takable_of_not_prefix (h word hword).2.2
    have hreading : Reading.ofTexts (flags ++ ['-', 'e'] :: ls) =
        .accepted ⟨verbose, some ls, none, .calculate⟩ :=
      (ofTexts_verbose verbose _).trans
        ((Reading.ofTextsWith_expression rfl ls).trans (if_pos htaken))
    exact (run_of_accepted hreading console).trans (ofSettings_given verbose ls console)
  · have hboth : (console.inputIsTerminal && console.outputIsTerminal) = false := by
      rw [← Bool.not_eq_true, Bool.and_eq_true]
      exact hterminals
    rw [run_of_accepted hflags]
    refine ofSettings_input rfl ?_ hinput fun line hline => ⟨(h line hline).1, (h line hline).2.1⟩
    rw [hboth]
    rfl
  · rw [run_of_accepted hflags]
    exact ofSettings_prompted rfl rfl
  · rw [run_of_accepted hflags]
    exact ofSettings_prompted rfl rfl

/-- Verbose sessions with a division by zero and a mark that is alone in its line: standard input
that ends without a line feed is as good as lines given, and an interrupt shows in the status. -/
theorem run_eq_of_same_lines_faults :
    let ls : List Text := ["3 0 /=".toList, "#1 + 2=".toList]
    (∀ line ∈ ls, '\r' ∉ line ∧ '\n' ∉ line ∧ ¬ ['-', '-'] <+: line) ∧
    run (['-', 'v'] :: ['-', 'e'] :: ls) ⟨"7 =\n".toList, true, true, [['d']], .interrupt⟩ =
      run [['-', 'v']] ⟨"3 0 /=\n#1 + 2=".toList, true, false, [['d']], .interrupt⟩ ∧
    (run [['-', 'v']] ⟨[], true, true, ls, .interrupt⟩).status = 1 := by
  intro ls
  have h : ∀ line ∈ ls, '\r' ∉ line ∧ '\n' ∉ line ∧ ¬ ['-', '-'] <+: line := by decide
  obtain ⟨hgiven, hinput, -, hinterrupt⟩ := run_eq_of_same_lines true ls h
  refine ⟨h, (hgiven _).trans (hinput _ (.inr (by decide)) (by decide)).symm, ?_⟩
  exact congrArg status (hinterrupt [])

/-! ### Prompts asked for -/

/-- **What `-p` asks for**: lines typed at the prompt that it is given, on every console and
whatever stands on standard input.  An empty prompt is as good as none. -/
theorem run_prompt (prompt : Text) (h : prompt.head? ≠ some '-') (console : Console) :
    run [['-', 'p'], prompt] console =
      if prompt = [] then run [] console
      else
        ⟨if console.ending = .interrupt then 1 else 0,
          (Calculator.fresh.runLines false console.typed).out.map Report.text, [],
          List.replicate (console.typed.length + 1) prompt⟩ := by
  have hreading : Reading.ofTexts [['-', 'p'], prompt] =
      .accepted ⟨false, none, some prompt, .calculate⟩ :=
    Reading.ofTextsWith_prompt (s := .initial) rfl h
  rw [run_of_accepted hreading]
  cases prompt with
  | nil => rfl
  | cons c rest =>
    rw [if_neg (by simp), ofSettings_prompted rfl rfl]
    simp only [Calculator.err_runLines, List.map_nil]

/-- One line is typed at the prompt `?`, which is shown a second time for the end of typing; the
line on standard input is never read. -/
theorem run_prompt_question :
    ['?'].head? ≠ some '-' ∧
    run [['-', 'p'], ['?']] ⟨"7 =\n".toList, false, true, [['4', ' ', '=']], .endOfInput⟩ =
      ⟨0, [['4']], [], [['?'], ['?']]⟩ := by
  have hhead : ['?'].head? ≠ some '-' := by decide
  refine ⟨hhead, (run_prompt ['?'] hhead _).trans ?_⟩
  decide

/-- An empty prompt does not make a session ask for lines: without terminals it reads standard
input, and lines that are typed are never seen. -/
theorem prompt_empty_reads_input :
    ¬ ∀ (prompt : Text) (console : Console), prompt.head? ≠ some '-' →
      (run [['-', 'p'], prompt] console).out =
          (Calculator.fresh.runLines false console.typed).out.map Report.text ∧
        (run [['-', 'p'], prompt] console).prompts =
          List.replicate (console.typed.length + 1) prompt := by
  intro h
  obtain ⟨-, hprompts⟩ :=
    h [] ⟨"1 =\n".toList, false, false, ["2 =".toList], .endOfInput⟩ (by decide)
  revert hprompts
  decide

end Session

end StackCalc
