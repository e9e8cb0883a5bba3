import CacheCoherence.Viewer.Picture

/-!
# The status bar

The last row of the screen.  Its left half shows the position in the list of
caches and a message, its right half the keys and the overall verdict, aligned
to the right.
-/

namespace CacheCoherence.Viewer.StatusBar

/-- The width of the left half; it has the middle column when there is one. -/
def leftWidth (width : Nat) : Nat :=
  (width + 1) / 2

def position (selected cacheCount : Nat) : String :=
  if cacheCount = 0 then
    " Cache -/0 "
  else
    " Cache " ++ (selected + 1).repr ++ "/" ++ cacheCount.repr ++ " "

def leftSpans (message : String) (selected cacheCount : Nat) : List Span :=
  [⟨position selected cacheCount, (Style.colours .black Theme.primary).inBold⟩,
    ⟨" | ", .colours Theme.comment Theme.currentLine⟩,
    ⟨" " ++ message ++ " ", .colours Theme.text Theme.currentLine⟩]

def verdictSpan (violationCount : Nat) : Span :=
  if violationCount = 0 then
    ⟨" PASS ", (Style.colours .black Theme.success).inBold⟩
  else
    ⟨" FAIL " ++ violationCount.repr ++ " ", (Style.colours .black Theme.error).inBold⟩

def rightSpans (violationCount : Nat) : List Span :=
  let key (text : String) : Span := ⟨text, .colours .black Theme.comment⟩
  let description (text : String) : Span := ⟨text, .colours Theme.text Theme.currentLine⟩
  let separator : Span := ⟨"│", .colours Theme.comment Theme.currentLine⟩
  [key " ↑/↓ ", description " select ", separator, description " ",
    key " ⇥ ", description " focus ", separator, description " ",
    key " PgUp/PgDn ", description " scroll ", separator, description " ",
    key "q", description " quit ", separator, verdictSpan violationCount]

/-- The picture of the status bar, with the text in its first row. -/
def picture (width height : Nat) (message : String) (selected cacheCount violationCount : Nat) :
    Picture :=
  let look := Look.blank.apply { background? := some Theme.currentLine }
  let left := fitRow (leftWidth width) look
    (lineCells look (leftSpans message selected cacheCount))
  let right := fitRowRight (width - leftWidth width) look
    (lineCells look (rightSpans violationCount))
  fitRows width height look [left ++ right]

end CacheCoherence.Viewer.StatusBar
