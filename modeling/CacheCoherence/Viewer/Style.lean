import CacheCoherence.Snapshot.Record

/-!
# Colours and styles

A cell of the screen has a look: two colours and a weight.  A style says what it
changes of a look; colours that it does not name stay, and bold type once given
is kept.
-/

namespace CacheCoherence.Viewer

inductive Colour where
  | reset
  | black
  | rgb (red green blue : UInt8)
  deriving DecidableEq, Repr

structure Look where
  foreground : Colour
  background : Colour
  bold : Bool
  deriving DecidableEq, Repr

/-- The look of a cell that nothing has been drawn on. -/
def Look.blank : Look :=
  ⟨.reset, .reset, false⟩

/-- A change of looks. -/
structure Style where
  foreground? : Option Colour := none
  background? : Option Colour := none
  bold : Bool := false
  deriving DecidableEq, Repr

def Style.plain : Style :=
  {}

def Style.colour (colour : Colour) : Style :=
  { foreground? := some colour }

def Style.colours (foreground background : Colour) : Style :=
  { foreground? := some foreground, background? := some background }

def Style.inBold (style : Style) : Style :=
  { style with bold := true }

/-- The look after a style has been applied. -/
def Look.apply (look : Look) (style : Style) : Look where
  foreground := style.foreground?.getD look.foreground
  background := style.background?.getD look.background
  bold := look.bold || style.bold

structure Span where
  text : String
  style : Style
  deriving DecidableEq, Repr

/-! ## The colours of the viewer -/

namespace Theme

def text : Colour := .rgb 205 214 244

/-- The colour of positions and of shared lines. -/
def primary : Colour := .rgb 137 180 250

def secondary : Colour := .rgb 250 179 135

/-- Text of less weight. -/
def comment : Colour := .rgb 108 112 134

def success : Colour := .rgb 166 227 161

def error : Colour := .rgb 243 139 168

def warning : Colour := .rgb 249 226 175

def focusedBorder : Colour := .rgb 249 226 175

def border : Colour := .rgb 108 112 134

/-- The background of the selected row and of the status bar. -/
def currentLine : Colour := .rgb 50 50 70

def number : Colour := .rgb 250 179 135

def state : LineState → Colour
  | .modified => error
  | .exclusive => warning
  | .shared => primary
  | .invalid => comment

def borderStyle (focused : Bool) : Style :=
  if focused then (Style.colour focusedBorder).inBold else Style.colour border

end Theme

end CacheCoherence.Viewer
