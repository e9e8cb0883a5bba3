import CacheCoherence.Text.Lines
import Mathlib.Data.List.DropRight

/-!
# Lines of a written text

A text that is written line by line is cut into the same lines again, provided
that no line holds a line feed or ends in a carriage return.  Cutting is first
described for a text whose first line is known, with any text behind it.

Cutting takes no notice of what stands behind a line feed, so that the lines of two
texts are found again in the one text that they make up.
-/

namespace CacheCoherence.Text

/-! ## Lines that were written -/

/-- A line that is found again once it is written and ended by a line feed. -/
structure IsLine (line : Text) : Prop where
  no_feed : '\n' ∉ line
  no_return : line.getLast? ≠ some '\r'

instance (line : Text) : Decidable (IsLine line) :=
  decidable_of_iff ('\n' ∉ line ∧ line.getLast? ≠ some '\r')
    ⟨fun h => ⟨h.1, h.2⟩, fun h => ⟨h.no_feed, h.no_return⟩⟩

theorem terminate_cons {part : Text} {parts : List Text} (hparts : parts ≠ []) :
    terminate (part :: parts) = (part ++ ['\n']) :: terminate parts := by
  cases parts with
  | nil => exact absurd rfl hparts
  | cons next rest => rfl

theorem pieces_append_cons {line : Text} (hline : '\n' ∉ line) (rest : Text) :
    pieces (line ++ '\n' :: rest) = (line ++ ['\n']) :: pieces rest := by
  rw [pieces, List.splitOn_append_cons_self_of_not_mem hline,
    terminate_cons (List.splitOn_ne_nil '\n' rest), pieces]

theorem unterminated_append_feed {line : Text} (hline : line.getLast? ≠ some '\r') :
    unterminated (line ++ ['\n']) = line := by
  rw [← List.head?_reverse] at hline
  have hreverse : (line ++ ['\n']).reverse = '\n' :: line.reverse := by simp
  unfold unterminated
  split
  next body heq =>
    rw [hreverse, List.cons.injEq] at heq
    rw [heq.2] at hline
    exact absurd rfl hline
  next body _ heq =>
    rw [hreverse, List.cons.injEq] at heq
    rw [← heq.2, List.reverse_reverse]
  next _ hother => exact absurd hreverse (hother line.reverse)

theorem lines_append_cons {line : Text} (hline : IsLine line) (rest : Text) :
    lines (line ++ '\n' :: rest) = line :: lines rest := by
  rw [lines, pieces_append_cons hline.no_feed, List.map_cons,
    unterminated_append_feed hline.no_return, lines]

theorem toList_unlines_cons (line : String) (rest : List String) :
    (unlines (line :: rest)).toList = line.toList ++ '\n' :: (unlines rest).toList := by
  simp [unlines]

/-- The lines of a text that was written line by line. -/
theorem lines_unlines
    {written : List String} (hwritten : ∀ line ∈ written, IsLine line.toList) :
    lines (unlines written).toList = written.map String.toList := by
  induction written with
  | nil => rfl
  | cons line rest ih =>
      have hrest := ih fun other hother => hwritten other (List.mem_cons_of_mem line hother)
      rw [toList_unlines_cons, lines_append_cons (hwritten line List.mem_cons_self), hrest,
        List.map_cons]

/-! ## Lines of two texts -/

/-- A text that breaks off nowhere inside a line. -/
def EndsWithFeed (text : Text) : Prop :=
  text = [] ∨ ∃ body, text = body ++ ['\n']

theorem terminate_append (parts : List Text) {more : List Text} (hmore : more ≠ []) :
    terminate (parts ++ more) = parts.map (· ++ ['\n']) ++ terminate more := by
  induction parts with
  | nil => rfl
  | cons part rest ih =>
      rw [List.cons_append, terminate_cons (List.append_ne_nil_of_right_ne_nil rest hmore), ih,
        List.map_cons, List.cons_append]

theorem pieces_append_feed (body rest : Text) :
    pieces (body ++ '\n' :: rest) = (body.splitOn '\n').map (· ++ ['\n']) ++ pieces rest := by
  rw [pieces, List.splitOn_append_cons_self, terminate_append _ (List.splitOn_ne_nil '\n' rest),
    pieces]

theorem lines_append {front : Text} (hfront : EndsWithFeed front) (back : Text) :
    lines (front ++ back) = lines front ++ lines back := by
  rcases hfront with rfl | ⟨body, rfl⟩
  · rfl
  · rw [List.append_assoc, List.singleton_append, lines, lines, pieces_append_feed,
      pieces_append_feed, pieces_nil, List.append_nil, List.map_append, lines]

/-! ## Line ends -/

/-- What is left of a line when every carriage return and line feed behind it is taken
away. -/
structure IsWithoutEnd (line body : Text) : Prop where
  exists_end : ∃ lineEnd, line = body ++ lineEnd ∧ ∀ c ∈ lineEnd, c = '\r' ∨ c = '\n'
  no_return : body.getLast? ≠ some '\r'
  no_feed : body.getLast? ≠ some '\n'

theorem isWithoutEnd_dropLineEnd (line : Text) : IsWithoutEnd line (dropLineEnd line) := by
  let isEnd : Char → Bool := fun c => c = '\r' || c = '\n'
  have hdrop : dropLineEnd line = line.rdropWhile isEnd := rfl
  have hlast : ∀ c, (dropLineEnd line).getLast? = some c → isEnd c = false := by
    intro c hc
    rw [hdrop] at hc
    have hne : line.rdropWhile isEnd ≠ [] := fun hnil => by rw [hnil] at hc; cases hc
    rw [List.getLast?_eq_some_getLast hne, Option.some.injEq] at hc
    exact Bool.eq_false_iff.mpr (hc ▸ List.rdropWhile_last_not isEnd line hne)
  constructor
  · refine ⟨line.rtakeWhile isEnd, List.rdropWhile_append_rtakeWhile.symm, ?_⟩
    intro c hc
    have hend : isEnd c = true := List.mem_rtakeWhile_imp hc
    simpa [isEnd] using hend
  · intro hreturn
    exact absurd (hlast '\r' hreturn) (by decide)
  · intro hfeed
    exact absurd (hlast '\n' hfeed) (by decide)

end CacheCoherence.Text
