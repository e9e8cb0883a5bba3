import CacheCoherence.Text.Blank

/-!
# Lines of a text

A text is cut behind each line feed.  The pieces keep their terminators, so they
give back the text when they are joined; a line is a piece without its
terminator, which is a line feed or a carriage return and a line feed.  A last
piece without a line feed is a line as it stands, and a final line feed opens no
further line.
-/

namespace CacheCoherence.Text

/-- Puts back the line feeds between the parts of a text that was split at them;
nothing follows the last one, and an empty last part is no piece. -/
def terminate : List Text → List Text
  | [] => []
  | [last] => if last = [] then [] else [last]
  | part :: rest => (part ++ ['\n']) :: terminate rest

/-- The pieces of a text, each cut behind its line feed. -/
def pieces (text : Text) : List Text :=
  terminate (text.splitOn '\n')

def unterminated (piece : Text) : Text :=
  match piece.reverse with
  | '\n' :: '\r' :: body => body.reverse
  | '\n' :: body => body.reverse
  | _ => piece

def lines (text : Text) : List Text :=
  (pieces text).map unterminated

/-- A text without the carriage returns and line feeds at its end. -/
def dropLineEnd (text : Text) : Text :=
  (text.reverse.dropWhile fun c => c = '\r' || c = '\n').reverse

/-- The text whose lines are the given ones, each ended by a line feed. -/
def unlines (lines : List String) : String :=
  String.join (lines.map (· ++ "\n"))

@[simp] theorem pieces_nil : pieces [] = [] := rfl

example : lines ['a', '\r', '\n', '\n', 'b', '\r'] = [['a'], [], ['b', '\r']] := by
  decide

end CacheCoherence.Text
