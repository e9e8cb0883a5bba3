import CacheCoherence.Dump.ReadError

/-!
# The state of the reader

Lines outside sections are passed over whatever they hold, so that only a line
with the opening marker matters there.  Inside a section a header begins the
listing of a cache, and the record lines below it belong to that listing until
the next header or the end of the section.

The listings make up the snapshot: a cache that is listed again keeps its place
and takes the records of its last listing.

One step depends on the kind of the line only, not on where the line stands.
-/

namespace CacheCoherence.Dump

/-- Where in a dump the reader is: outside sections, in a section above its first
header, or below the header of a cache, with the records listed so far. -/
inductive Place where
  | outside
  | unlisted
  | listing (id : CacheId) (records : Array Record)
  deriving DecidableEq, Repr

/-- What has been read: the listings that are complete, and the present place. -/
structure State where
  complete : Array Cache
  place : Place
  deriving DecidableEq, Repr

namespace State

/-- The reader before the first line. -/
def initial : State :=
  ⟨#[], .outside⟩

/-- The listing that is still open. -/
def openListing? (state : State) : Option Cache :=
  match state.place with
  | .listing id records => some ⟨id, records.toList⟩
  | _ => none

/-- All listings, in the order of their headers. -/
def listings (state : State) : List Cache :=
  state.complete.toList ++ state.openListing?.toList

/-- Completes the open listing, if there is one, and goes to another place. -/
def goTo (state : State) (place : Place) : State :=
  match state.openListing? with
  | some cache => ⟨state.complete.push cache, place⟩
  | none => ⟨state.complete, place⟩

def snapshot (state : State) : Snapshot :=
  Snapshot.ofCaches state.listings

/-- The effect of a record line inside a section. -/
def addRecord (state : State) (literal : Text) : Except LineError State :=
  match state.place with
  | .listing id records =>
    match readRecord literal with
    | .ok record => .ok ⟨state.complete, .listing id (records.push record)⟩
    | .error error => .error (.literal error)
  | _ => .error .recordOutsideCache

/-- The effect of a line of this kind inside a section. -/
def stepInside (state : State) : LineKind → Except LineError State
  | .sectionOpen => .ok state
  | .sectionClose => .ok (state.goTo .outside)
  | .blank => .ok state
  | .header id => .ok (state.goTo (.listing id #[]))
  | .record literal => state.addRecord literal
  | .malformedHeader => .error .malformedHeader
  | .other => .error .unexpectedLine

/-- The effect of a line of this kind. -/
def step (state : State) (kind : LineKind) : Except LineError State :=
  if state.place = .outside then
    if kind = .sectionOpen then .ok (state.goTo .unlisted) else .ok state
  else
    state.stepInside kind

end State

end CacheCoherence.Dump
