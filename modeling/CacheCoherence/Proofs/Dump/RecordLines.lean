import CacheCoherence.Dump.LineKind
import CacheCoherence.Proofs.Dump.LiteralForm
import CacheCoherence.Proofs.Dump.Moves
import CacheCoherence.Proofs.Snapshot.Relisting

/-!
# Record lines

Lines are first looked at for the marker texts, and a literal may be spelled in many more
ways than dumps are written.  All of them consist of white space, signs and the characters
that dumps are written with, and the markers have a letter that is none of these.  So a
literal is never taken for a marker, and inside a section it adds its record to the cache
that is being listed.
-/

namespace CacheCoherence.Dump

open Text

/-! ## The characters of a literal -/

/-- The characters of headers and literals, digits apart. -/
def writtenChars : Text :=
  ['\t', ' ', ',', ':', '_', '\x7b', '\x7d', 'C', 'E', 'I', 'L', 'M', 'S', 'a', 'c', 'd', 'e',
    'g', 'h', 'i', 'l', 'n', 's', 't', 'u', 'x']

/-- Whether a character occurs in the lines of a cache. -/
def isWritten (c : Char) : Bool :=
  c.isDigit || List.contains writtenChars c

/-- Whether a character occurs in the literals of records. -/
def isLiteralChar (c : Char) : Bool :=
  isBlank c || c = '+' || isWritten c

/-- The text is made of characters of literals. -/
def IsLiteralText (text : Text) : Prop :=
  ∀ c ∈ text, isLiteralChar c = true

theorem isLiteralText_of_isSpace {text : Text} (h : IsSpace text) : IsLiteralText text := by
  intro c hc
  rw [isLiteralChar, h c hc, Bool.true_or, Bool.true_or]

theorem isLiteralText_of_all_isWritten {text : Text} (h : text.all isWritten = true) :
    IsLiteralText text := by
  intro c hc
  rw [isLiteralChar, List.all_eq_true.mp h c hc, Bool.or_true]

theorem isLiteralText_append {front back : Text} (hfront : IsLiteralText front)
    (hback : IsLiteralText back) : IsLiteralText (front ++ back) := by
  intro c hc
  exact (List.mem_append.mp hc).elim (hfront c) (hback c)

theorem isLiteralText_cons {c : Char} {rest : Text} (hc : isLiteralChar c = true)
    (hrest : IsLiteralText rest) : IsLiteralText (c :: rest) :=
  List.forall_mem_cons.mpr ⟨hc, hrest⟩

theorem isLiteralText_of_isPadded {inner text : Text} (htext : IsPadded inner text)
    (hinner : IsLiteralText inner) : IsLiteralText text := by
  obtain ⟨front, back, hfront, hback, rfl⟩ := htext
  exact isLiteralText_append (isLiteralText_append (isLiteralText_of_isSpace hfront) hinner)
    (isLiteralText_of_isSpace hback)

theorem isLiteralText_intercalate {fields : List Text}
    (hfields : ∀ field ∈ fields, IsLiteralText field) :
    IsLiteralText ([','].intercalate fields) := by
  induction fields with
  | nil => exact nofun
  | cons field rest ih =>
      obtain ⟨hfield, hrest⟩ := List.forall_mem_cons.mp hfields
      cases rest with
      | nil => rwa [List.intercalate_singleton]
      | cons next rest =>
          rw [List.intercalate_cons_cons, List.append_assoc, List.singleton_append]
          exact isLiteralText_append hfield (isLiteralText_cons (by decide) (ih hrest))

theorem Key.isLiteralText_name (key : Key) : IsLiteralText key.name.toList := by
  apply isLiteralText_of_all_isWritten
  cases key <;> decide

theorem isLiteralText_of_isSignedNumeral {text : Text} {value : Nat}
    (h : IsSignedNumeral text value) : IsLiteralText text := by
  obtain ⟨digits, htext, hdigits⟩ := h
  have hnumeral : IsLiteralText digits := by
    apply isLiteralText_of_all_isWritten
    rw [List.all_eq_true]
    intro c hc
    rw [isWritten, hdigits.isDigit c hc, Bool.true_or]
  rcases htext with rfl | rfl
  · exact hnumeral
  · exact isLiteralText_cons (by decide) hnumeral

theorem Entry.IsValue.isLiteralText {entry : Entry} {value : Text} (h : entry.IsValue value) :
    IsLiteralText value := by
  cases entry with
  | state state =>
      rw [h]
      apply isLiteralText_of_all_isWritten
      cases state <;> decide
  | setIndex number | tag number | lastUsed number => exact isLiteralText_of_isSignedNumeral h

theorem IsFieldOf.isLiteralText {entry : Entry} {field : Text} (h : IsFieldOf entry field) :
    IsLiteralText field := by
  obtain ⟨key, value, text, rfl, hkey, htext, hvalue⟩ := h
  refine isLiteralText_append ?_ (isLiteralText_cons (by decide) ?_)
  · exact isLiteralText_of_isPadded hkey entry.key.isLiteralText_name
  · exact isLiteralText_of_isPadded htext hvalue.isLiteralText

theorem IsLiteralOf.isLiteralText {record : Record} {text : Text} (h : IsLiteralOf record text) :
    IsLiteralText text := by
  obtain ⟨body, fields, entries, ⟨space, hspace, htext⟩, hdivided, hfields, -⟩ := h
  have hfield : ∀ field ∈ fields, IsLiteralText field := by
    clear hdivided
    induction hfields with
    | nil => exact nofun
    | cons hfirst _ ih => exact List.forall_mem_cons.mpr ⟨hfirst.isLiteralText, ih⟩
  have hbody : IsLiteralText body := hdivided.joined ▸ isLiteralText_intercalate hfield
  have hword : IsLiteralText recordWord.toList :=
    isLiteralText_of_all_isWritten (by decide)
  refine isLiteralText_of_isPadded htext (isLiteralText_append hword ?_)
  refine isLiteralText_append (isLiteralText_of_isSpace hspace) ?_
  refine isLiteralText_cons (by decide) (isLiteralText_append hbody ?_)
  exact isLiteralText_cons (by decide) nofun

/-! ## Record lines -/

/-- Both markers have an upper-case letter that no line of a cache has. -/
theorem not_marker_isInfix {line : Text} (hline : 'H' ∉ line) :
    ¬sectionOpening.toList <:+: line ∧ ¬sectionClosing.toList <:+: line :=
  ⟨fun h => hline (h.subset (by decide)), fun h => hline (h.subset (by decide))⟩

theorem readRecord_trim (text : Text) : readRecord (trim text) = readRecord text := by
  rw [readRecord, readRecord, body?, body?, trim_trim]

theorem IsLiteralOf.prefix_trim {record : Record} {text : Text} (h : IsLiteralOf record text) :
    recordWord.toList <+: trim text := by
  obtain ⟨body, fields, entries, hframed, -⟩ := h
  obtain ⟨rest, hword, -⟩ := Option.bind_eq_some_iff.mp (body?_eq_some_iff.mpr hframed)
  exact isSome_isPrefixOf?_iff.mp (Option.isSome_iff_exists.mpr ⟨rest, hword⟩)

/-- A literal with white space around it makes a record line. -/
theorem LineKind.of_isPadded {record : Record} {text line : Text}
    (hliteral : IsLiteralOf record text) (hline : IsPadded text line) :
    LineKind.of line = .record (trim text) := by
  have hmarker : 'H' ∉ trim text := by
    intro hmem
    have hchar := hliteral.isLiteralText 'H' ((trim_isInfix text).subset hmem)
    revert hchar
    decide
  obtain ⟨hopening, hclosing⟩ := not_marker_isInfix hmarker
  have hword : recordWord.toList <+: trim text := hliteral.prefix_trim
  have hne : trim text ≠ [] := by
    intro hnil
    rw [hnil, List.prefix_nil] at hword
    cases hword
  rw [LineKind.of, hline.trim_eq, ofTrimmed, if_neg (mt contains_iff.mp hopening),
    if_neg (mt contains_iff.mp hclosing), if_neg hne,
    if_pos (List.isPrefixOf_iff_prefix.mpr hword)]

namespace State

theorem snapshot_listing (complete : Array Cache) (id : CacheId) (records : Array Record) :
    snapshot ⟨complete, .listing id records⟩ =
      (Snapshot.ofCaches complete.toList).put ⟨id, records.toList⟩ :=
  Snapshot.ofCaches_concat complete.toList ⟨id, records.toList⟩

/-- What a record adds to a state in which a cache is being listed. -/
structure IsAddedTo (record : Record) (id : CacheId) (state next : State) : Prop where
  complete : next.complete = state.complete
  place : ∃ records, state.place = .listing id records ∧
    next.place = .listing id (records.push record)
  ids : next.snapshot.ids = state.snapshot.ids
  records? : ∀ other, next.snapshot.records? other =
    (state.snapshot.records? other).map fun records =>
      if other = id then records ++ [record] else records

theorem isAddedTo_push (record : Record) (complete : Array Cache) (id : CacheId)
    (records : Array Record) :
    IsAddedTo record id ⟨complete, .listing id records⟩
      ⟨complete, .listing id (records.push record)⟩ := by
  refine ⟨rfl, ⟨records, rfl, rfl⟩, ?_, fun other => ?_⟩
  · rw [snapshot_listing, snapshot_listing, Snapshot.ids_put, Snapshot.ids_put]
  · rw [snapshot_listing, snapshot_listing, Snapshot.records?_put, Snapshot.records?_put]
    by_cases hother : id = other
    · simp [hother]
    · simp [hother, Ne.symm hother]

end State

/-- A text that is read as a record makes a record line with any white space around it, and
where a cache is being listed the line adds this record to the cache and does nothing
else. -/
theorem LineKind.of_readable {text line : Text} {record : Record}
    (hread : readRecord text = .ok record) (hline : IsPadded text line) :
    LineKind.of line = .record (trim text) ∧ readRecord (trim text) = .ok record ∧
      ∀ state id records, state.place = Place.listing id records →
        ∃ next, state.step (LineKind.of line) = .ok next ∧
          State.IsAddedTo record id state next := by
  have hkind := LineKind.of_isPadded (isLiteralOf_of_readRecord hread) hline
  have htrimmed : readRecord (trim text) = .ok record := by
    rw [readRecord_trim, hread]
  refine ⟨hkind, htrimmed, ?_⟩
  rintro ⟨complete, place⟩ id records rfl
  refine ⟨_, ?_, State.isAddedTo_push record complete id records⟩
  rw [hkind]
  exact State.step_eq_ok_iff.mpr (.add complete id records htrimmed)

/-- Fields in an unusual order, with a sign and a no-break space, between other blanks. -/
theorem LineKind.of_readable_turned :
    let text := "CacheLine\u00a0\x7bstatus: M,tag:+7 , last_used: 0,set_index :1\x7d".toList
    let line := "\t\u2003".toList ++ text ++ " \r\n".toList
    let state : State := ⟨#[], .listing ⟨4⟩ #[]⟩
    readRecord text = .ok ⟨1, 7, 0, .modified⟩ ∧ IsPadded text line ∧
      LineKind.of line = .record (trim text) ∧
      ∃ next, state.step (LineKind.of line) = .ok next ∧
        State.IsAddedTo ⟨1, 7, 0, .modified⟩ ⟨4⟩ state next := by
  intro text line state
  have hread : readRecord text = .ok ⟨1, 7, 0, .modified⟩ := by decide +kernel
  have hline : IsPadded text line :=
    ⟨"\t\u2003".toList, " \r\n".toList, by decide, by decide, rfl⟩
  obtain ⟨hkind, -, hadds⟩ := LineKind.of_readable hread hline
  exact ⟨hread, hline, hkind, hadds state ⟨4⟩ #[] rfl⟩

end CacheCoherence.Dump
