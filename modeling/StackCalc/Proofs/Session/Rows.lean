import StackCalc.Proofs.Session.Dump

/-!
# StackCalc.Proofs.Session.Rows — the list of tokens read back

The list of tokens is printed as one text: rows with a line feed behind each of them, and fields
with tabs between.  Whatever characters a token holds, in quotes it shows neither a tab nor a line
feed.  So the text falls apart into its rows and a row into its three fields, and the field in the
middle, with the quotes undone, is the token (`tokenOfRow?_tokenRow`).  The tokens of the lines are
read back from the list, one from each row and in order (`Session.listTokens_read_back`).
-/

namespace StackCalc

namespace Listing

/-- The token that a row tells of: what stands in quotes between its two tabs. -/
def tokenOfRow? (row : Text) : Option Text :=
  match row.splitOn '\t' with
  | [_, field, _] => Text.unquote? field
  | _ => none

/-! ### Rows of tokens -/

/-- Every row has a kind and a number of operands around the token in quotes. -/
theorem exists_kind (token : Text) :
    ∃ kind number, (kind, number) ∈ kinds ∧ tokenRow token = row [kind, Text.quote token, number] :=
  let ⟨kind, number, hkind, hrow, _⟩ := exists_describes token
  ⟨kind, number, hkind, hrow⟩

/-- **The token is read back from its row**, whatever characters it holds. -/
theorem tokenOfRow?_tokenRow (token : Text) : tokenOfRow? (tokenRow token) = some token := by
  obtain ⟨kind, number, hkind, hrow⟩ := exists_kind token
  rw [tokenOfRow?, hrow, splitOn_row hkind]
  exact Text.unquote?_quote token

/-- A row is its three fields with tabs between, and these are all the tabs. -/
theorem count_tab_tokenRow (token : Text) : (tokenRow token).count '\t' = 2 := by
  obtain ⟨kind, number, hkind, hrow⟩ := exists_kind token
  have htabs : ∀ p ∈ kinds, p.1.count '\t' = 0 ∧ p.2.count '\t' = 0 := by decide
  have hquote := List.count_eq_zero_of_not_mem (tab_not_mem_quote token)
  rw [hrow]
  simp [row, List.intercalate, hquote, htabs _ hkind]

theorem lineFeed_not_mem_tokenRow (token : Text) : '\n' ∉ tokenRow token := by
  obtain ⟨kind, number, hkind, hrow⟩ := exists_kind token
  have hfeeds : ∀ p ∈ kinds, '\n' ∉ p.1 ∧ '\n' ∉ p.2 := by decide
  have hquote : '\n' ∉ Text.quote token := fun h =>
    absurd (Text.isPrintable_of_mem_quote h) (by decide)
  rw [hrow]
  simp [row, List.intercalate, hquote, hfeeds _ hkind]

end Listing

namespace Session

/-- The text that a session prints on standard output: its lines, with a line feed behind each. -/
def printed (s : Session) : Text := s.out.flatMap (· ++ ['\n'])

/-- **The list of tokens can be read back.**  It is its head and one row for each token, in order;
cut at its line feeds, the text falls into just these lines.  Each row holds two tabs, and what
stands in quotes between them is the token. -/
theorem listTokens_read_back {ls : List Text} (h : ∀ line ∈ ls, ¬ ['-', '-'] <+: line)
    (console : Console) :
    let head := "<kind>\t<repr(token)>\t<arity>".toList
    let session := run (['-', 'D'] :: ['-', 'e'] :: ls) console
    ∃ rows, session = ⟨0, head :: rows, [], []⟩ ∧
      Text.lines session.printed = (head :: rows).map (· ++ ['\n']) ∧
      (∀ row ∈ rows, row.count '\t' = 2) ∧
      rows.map Listing.tokenOfRow? = (ls.flatMap Line.tokens).map some := by
  intro head session
  have hsession : session = ⟨0, head :: (ls.flatMap Line.tokens).map Listing.tokenRow, [], []⟩ :=
    run_listTokens h console
  refine ⟨_, hsession, ?_, ?_, ?_⟩
  · rw [hsession]
    refine Text.lines_flatMap_lineFeed (List.forall_mem_cons.2 ⟨by decide, ?_⟩)
    intro row hrow
    obtain ⟨token, -, rfl⟩ := List.mem_map.1 hrow
    exact Listing.lineFeed_not_mem_tokenRow token
  · intro row hrow
    obtain ⟨token, -, rfl⟩ := List.mem_map.1 hrow
    exact Listing.count_tab_tokenRow token
  · rw [List.map_map]
    exact List.map_congr_left fun token _ => Listing.tokenOfRow?_tokenRow token

/-- A token of both quotes, a backslash, a control character and two format characters, one of them
beyond U+FFFF. -/
theorem listTokens_read_back_quotes :
    let token : Text := ['\x27', '\x22', '\\', '\x01', '\u200b', Char.ofNat 0xE0001, '\x27']
    (∀ line ∈ [token], ¬ ['-', '-'] <+: line) ∧
    ∃ row, (run [['-', 'D'], ['-', 'e'], token] ⟨[], true, true, [], .endOfInput⟩).out =
        ["<kind>\t<repr(token)>\t<arity>".toList, row] ∧
      row.count '\t' = 2 ∧ Listing.tokenOfRow? row = some token := by
  intro token
  have h : ∀ line ∈ [token], ¬ ['-', '-'] <+: line := by decide
  obtain ⟨rows, hsession, -, htabs, htokens⟩ :=
    listTokens_read_back h ⟨[], true, true, [], .endOfInput⟩
  have hone : [token].flatMap Line.tokens = [token] := by decide
  rw [hone] at htokens
  obtain ⟨row, rfl⟩ : ∃ row, rows = [row] := by
    rw [← List.length_eq_one_iff, ← List.length_map Listing.tokenOfRow?, htokens]
    rfl
  refine ⟨h, row, congrArg out hsession, htabs row (by simp), ?_⟩
  simpa using htokens

end Session

end StackCalc
