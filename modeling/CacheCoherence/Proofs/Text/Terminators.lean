import CacheCoherence.Proofs.Text.Lines
import CacheCoherence.Proofs.Text.Padding

/-!
# Terminators of lines

There is one way of cutting a text behind its line feeds.  A carriage return in front of
every line feed moves none of the cuts: each piece gets its own, and the pieces are in
other respects the same.

What is left of a piece without the carriage returns and line feeds at its end does not
depend on its terminator, so that three ways of giving the lines of a text agree in it: the
pieces themselves, the pieces without one terminator each, and the lines of the text with
the carriage returns put in.
-/

namespace CacheCoherence.Text

/-! ## Cuts behind line feeds -/

/-- The text is cut behind each of its line feeds and nowhere else. -/
inductive IsCut : (text : Text) → (pieces : List Text) → Prop
  | nothing : IsCut [] []
  | unended {line : Text} (hne : line ≠ []) (hline : '\n' ∉ line) : IsCut line [line]
  | ended {line rest : Text} {pieces : List Text} (hline : '\n' ∉ line)
      (hrest : IsCut rest pieces) : IsCut (line ++ '\n' :: rest) ((line ++ ['\n']) :: pieces)

theorem pieces_of_not_mem {line : Text} (hne : line ≠ []) (hline : '\n' ∉ line) :
    pieces line = [line] := by
  rw [pieces, List.splitOn_eq_singleton hline, terminate, if_neg hne]

theorem isCut_pieces (text : Text) : IsCut text (pieces text) := by
  by_cases hfeed : '\n' ∈ text
  · obtain ⟨line, rest, rfl, hline⟩ := List.eq_append_cons_of_mem hfeed
    rw [pieces_append_cons hline]
    exact .ended hline (isCut_pieces rest)
  · by_cases hne : text = []
    · rw [hne]
      exact .nothing
    · rw [pieces_of_not_mem hne hfeed]
      exact .unended hne hfeed
termination_by text.length

theorem isCut_iff {text : Text} {cut : List Text} : IsCut text cut ↔ cut = pieces text := by
  constructor
  · intro hcut
    induction hcut with
    | nothing => rw [pieces_nil]
    | unended hne hline => rw [pieces_of_not_mem hne hline]
    | ended hline _ ih => rw [pieces_append_cons hline, ih]
  · rintro rfl
    exact isCut_pieces text

/-! ## Carriage returns in front of line feeds -/

/-- The text with a further carriage return in front of each line feed. -/
def withReturns (text : Text) : Text :=
  text.flatMap fun c => if c = '\n' then ['\r', '\n'] else [c]

theorem withReturns_of_not_mem {line : Text} (hline : '\n' ∉ line) : withReturns line = line := by
  induction line with
  | nil => rfl
  | cons c rest ih =>
      rw [List.mem_cons, not_or] at hline
      rw [withReturns, List.flatMap_cons, if_neg fun heq => hline.1 heq.symm, ← withReturns,
        ih hline.2, List.singleton_append]

theorem withReturns_append_cons {line : Text} (hline : '\n' ∉ line) (rest : Text) :
    withReturns (line ++ '\n' :: rest) = (line ++ ['\r']) ++ '\n' :: withReturns rest := by
  have hfront : line.flatMap (fun c => if c = '\n' then ['\r', '\n'] else [c]) = line :=
    withReturns_of_not_mem hline
  rw [withReturns, List.flatMap_append, hfront, List.flatMap_cons, if_pos rfl, ← withReturns,
    List.append_assoc]
  rfl

/-- The pieces of the text with the carriage returns are the pieces with theirs. -/
theorem IsCut.withReturns {text : Text} {cut : List Text} (hcut : IsCut text cut) :
    IsCut (withReturns text) (cut.map withReturns) := by
  induction hcut with
  | nothing => exact .nothing
  | unended hne hline =>
      rw [List.map_singleton, withReturns_of_not_mem hline]
      exact .unended hne hline
  | ended hline _ ih =>
      rw [withReturns_append_cons hline, List.map_cons, withReturns_append_cons hline]
      refine .ended ?_ ih
      simpa using hline

/-! ## Lines without their ends -/

theorem dropLineEnd_append
    {lineEnd : Text} (hend : ∀ c ∈ lineEnd, c = '\r' ∨ c = '\n') (line : Text) :
    dropLineEnd (line ++ lineEnd) = dropLineEnd line := by
  have hreverse : ∀ c ∈ lineEnd.reverse, (c = '\r' || c = '\n') = true := by
    intro c hc
    simpa using hend c (List.mem_reverse.mp hc)
  rw [dropLineEnd, List.reverse_append, List.dropWhile_append_of_pos hreverse, dropLineEnd]

theorem dropLineEnd_dropLineEnd (line : Text) :
    dropLineEnd (dropLineEnd line) = dropLineEnd line := by
  obtain ⟨lineEnd, heq, hend⟩ := (isWithoutEnd_dropLineEnd line).exists_end
  conv_rhs => rw [heq, dropLineEnd_append hend]

theorem isPadded_dropLineEnd (line : Text) : IsPadded (dropLineEnd line) line := by
  obtain ⟨lineEnd, heq, hend⟩ := (isWithoutEnd_dropLineEnd line).exists_end
  have hspace : IsSpace lineEnd := by
    intro c hc
    rcases hend c hc with rfl | rfl
    · decide
    · decide
  exact ⟨[], lineEnd, isSpace_nil, hspace, heq⟩

/-- Only a terminator is taken from a piece to make it a line. -/
theorem exists_eq_unterminated_append (piece : Text) :
    ∃ lineEnd, piece = unterminated piece ++ lineEnd ∧ ∀ c ∈ lineEnd, c = '\r' ∨ c = '\n' := by
  unfold unterminated
  split
  next body heq =>
    refine ⟨['\r', '\n'], ?_, by simp⟩
    rw [← List.reverse_reverse piece, heq]
    simp
  next body _ heq =>
    refine ⟨['\n'], ?_, by simp⟩
    rw [← List.reverse_reverse piece, heq]
    simp
  next => exact ⟨[], (List.append_nil piece).symm, nofun⟩

theorem dropLineEnd_unterminated (piece : Text) :
    dropLineEnd (unterminated piece) = dropLineEnd piece := by
  obtain ⟨lineEnd, heq, hend⟩ := exists_eq_unterminated_append piece
  conv_rhs => rw [heq, dropLineEnd_append hend]

theorem map_dropLineEnd_lines (text : Text) :
    (lines text).map dropLineEnd = (pieces text).map dropLineEnd := by
  rw [lines, List.map_map]
  exact List.map_congr_left fun piece _ => dropLineEnd_unterminated piece

theorem IsCut.map_dropLineEnd_withReturns {text : Text} {cut : List Text} (hcut : IsCut text cut) :
    (cut.map Text.withReturns).map dropLineEnd = cut.map dropLineEnd := by
  induction hcut with
  | nothing => rfl
  | unended _ hline => rw [List.map_singleton, withReturns_of_not_mem hline]
  | @ended line _ _ hline _ ih =>
      have hfeed : ∀ c ∈ ['\n'], c = '\r' ∨ c = '\n' := by simp
      have hboth : ∀ c ∈ ['\r'] ++ ['\n'], c = '\r' ∨ c = '\n' := by simp
      have hreturns : Text.withReturns (line ++ ['\n']) = line ++ (['\r'] ++ ['\n']) := by
        rw [withReturns_append_cons hline, List.append_assoc]
        rfl
      rw [List.map_cons, List.map_cons, List.map_cons, ih, hreturns, dropLineEnd_append hboth,
        dropLineEnd_append hfeed]

theorem map_dropLineEnd_lines_withReturns (text : Text) :
    (lines (withReturns text)).map dropLineEnd = (lines text).map dropLineEnd := by
  have hcut : IsCut text (pieces text) := isCut_pieces text
  have hpieces : (pieces text).map withReturns = pieces (withReturns text) :=
    isCut_iff.mp hcut.withReturns
  rw [map_dropLineEnd_lines, map_dropLineEnd_lines, ← hpieces, hcut.map_dropLineEnd_withReturns]

/-- Several carriage returns in front of a line feed, and some at the end of the text. -/
example :
    let text : Text := ['a', '\r', '\r', '\n', '\n', 'b', '\r']
    pieces text = [['a', '\r', '\r', '\n'], ['\n'], ['b', '\r']] ∧
      lines (withReturns text) = [['a', '\r', '\r'], [], ['b', '\r']] ∧
      (lines text).map dropLineEnd = [['a'], [], ['b']] := by
  decide

end CacheCoherence.Text
