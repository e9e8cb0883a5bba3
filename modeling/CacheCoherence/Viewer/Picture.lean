import CacheCoherence.Viewer.Style

/-!
# Pictures

A picture is a rectangle of character cells, given by its rows.  The functions
here build pictures of a given size: what is too long for a row is cut off at
the right and what is too short is filled with blanks, so that pictures can be
put beside each other and above each other.
-/

namespace CacheCoherence.Viewer

structure Cell where
  glyph : Char
  look : Look
  deriving DecidableEq, Repr

/-- Rows of cells, from the top. -/
abbrev Picture := List (List Cell)

def blanks (width : Nat) (look : Look) : List Cell :=
  List.replicate width ⟨' ', look⟩

/-- A row of exactly this width that begins with the given cells. -/
def fitRow (width : Nat) (look : Look) (cells : List Cell) : List Cell :=
  cells.take width ++ blanks (width - cells.length) look

/-- A row of exactly this width that ends with the given cells, or begins with them
when they do not fit. -/
def fitRowRight (width : Nat) (look : Look) (cells : List Cell) : List Cell :=
  blanks (width - cells.length) look ++ cells.take width

/-- Exactly this number of rows, beginning with the given ones. -/
def fitRows (width height : Nat) (look : Look) (rows : Picture) : Picture :=
  rows.take height ++ List.replicate (height - rows.length) (blanks width look)

def blankPicture (width height : Nat) (look : Look) : Picture :=
  List.replicate height (blanks width look)

/-- The cells of spans that are drawn over a look. -/
def lineCells (look : Look) (spans : List Span) : List Cell :=
  spans.flatMap fun span => span.text.toList.map fun c => ⟨c, look.apply span.style⟩

/-- Two pictures of one height, side by side. -/
def beside (left right : Picture) : Picture :=
  List.zipWith (· ++ ·) left right

/-- The rows of an item list: each item has one row, which its own style covers as
a whole. -/
structure Item where
  style : Style
  spans : List Span
  deriving DecidableEq, Repr

def Item.blank : Item :=
  ⟨.plain, []⟩

def Item.ofText (text : String) (style : Style) : Item :=
  ⟨style, [⟨text, .plain⟩]⟩

def Item.row (width : Nat) (look : Look) (item : Item) : List Cell :=
  let look := look.apply item.style
  fitRow width look (lineCells look item.spans)

/-- A picture of items, one to a row. -/
def itemPicture (width height : Nat) (items : List Item) : Picture :=
  fitRows width height .blank (items.map (Item.row width .blank))

/-- A picture of lines of text on a look. -/
def linePicture (width height : Nat) (look : Look) (lines : List (List Span)) : Picture :=
  fitRows width height look (lines.map fun line => fitRow width look (lineCells look line))

/-- A box of the given size with a title in its upper edge.  The inside is a
picture, two rows and two columns smaller, on the look that the box is drawn on.
In a box that is one cell wide only the left edge is seen, and of one that is one
cell high only the upper edge. -/
def framed (title : String) (border : Style) (look : Look) (width height : Nat)
    (inside : Nat → Nat → Picture) : Picture :=
  let edge (c : Char) : Cell := ⟨c, look.apply border⟩
  let horizontal := List.replicate (width - 2) (edge '─')
  let heading := (title.toList.map edge).take (width - 2)
  let upper := [edge '┌'] ++ heading ++ horizontal.drop heading.length ++ [edge '┐']
  let lower := [edge '└'] ++ horizontal ++ [edge '┘']
  let middle := (inside (width - 2) (height - 2)).map fun row => [edge '│'] ++ row ++ [edge '│']
  let rows := if height ≤ 1 then [upper].take height else [upper] ++ middle ++ [lower]
  rows.map fun row => row.take width

/-- A blank picture of the given size, with another picture on it whose upper left
corner is in this column and row. -/
def placed (width height column row : Nat) (picture : Picture) : Picture :=
  fitRows width height .blank
    (blankPicture width row .blank ++
      picture.map fun cells => fitRow width .blank (blanks column .blank ++ cells))

end CacheCoherence.Viewer
