import CacheCoherence.Proofs.Dump.Fields
import Mathlib.Data.List.Perm.Subperm

/-!
# The form of record literals

The literals of a record are described as texts, without a way of reading them: the
record word and braces, between the braces four fields with commas between them, and
each field a key, a colon and a value, with white space wherever it is allowed.  A record
has many literals, as its fields stand in any order and numbers may have leading zeros
and a sign.

The texts that are read as a record are its literals and no others.  A text is framed,
divided and paired in one way only, so each part of the reader is compared with one part
of the description.  That four entries with different keys give every field a value is a
matter of counting the keys.
-/

namespace CacheCoherence.Dump

open Text

/-! ## The description of literals -/

/-- The entries of a record, in the order of literals. -/
def entriesOf (record : Record) : List Entry :=
  [.setIndex record.setIndex, .tag record.tag, .lastUsed record.lastUsed, .state record.state]

/-- The text consists of the record word and of `body` between braces. -/
def IsFramed (body text : Text) : Prop :=
  ∃ space, IsSpace space ∧
    IsPadded (recordWord.toList ++ (space ++ '\x7b' :: (body ++ ['\x7d']))) text

/-- These are the parts of the text between its commas. -/
structure IsDivided (text : Text) (fields : List Text) : Prop where
  ne_nil : fields ≠ []
  comma_not_mem : ∀ field ∈ fields, ',' ∉ field
  joined : [','].intercalate fields = text

/-- The text has a field for each entry of the record, in some order. -/
def IsLiteralOf (record : Record) (text : Text) : Prop :=
  ∃ body fields entries, IsFramed body text ∧ IsDivided body fields ∧
    List.Forall₂ IsFieldOf entries fields ∧ entries.Perm (entriesOf record)

/-! ## The frame and its parts -/

theorem isSuffixOf?_eq_some_iff {word text front : Text} :
    word.isSuffixOf? text = some front ↔ text = front ++ word := by
  constructor
  · intro h
    rw [List.isSuffixOf?, Option.map_eq_some_iff] at h
    obtain ⟨rest, hrest, rfl⟩ := h
    rw [isPrefixOf?_eq_some_iff] at hrest
    rw [← List.reverse_reverse text, hrest, List.reverse_append, List.reverse_reverse]
  · rintro rfl
    rw [List.isSuffixOf?, List.reverse_append, isPrefixOf?_eq_some_iff.mpr rfl, Option.map_some,
      List.reverse_reverse]

theorem isTrimmed_frame (inside : Text) :
    IsTrimmed (recordWord.toList ++ (inside ++ ['\x7d'])) := by
  rw [← List.append_assoc]
  exact isTrimmed_of_ends 'C' (recordWord.toList.tail ++ inside) '\x7d' (by decide) (by decide)

theorem body?_eq_some_iff {text body : Text} : body? text = some body ↔ IsFramed body text := by
  constructor
  · intro h
    simp only [body?, Option.bind_eq_bind, Option.bind_eq_some_iff, isPrefixOf?_eq_some_iff,
      isSuffixOf?_eq_some_iff] at h
    obtain ⟨rest, hword, inside, hopen, hclose⟩ := h
    obtain ⟨space, hspace, hrest⟩ := exists_trimStart rest
    obtain ⟨back, hback, hinside⟩ := exists_trimEnd inside
    refine ⟨space, hspace, .trans ⟨[], back, isSpace_nil, hback, ?_⟩ (isPadded_trim text)⟩
    rw [hword, hrest, hopen, hinside, hclose]
    simp
  · rintro ⟨space, hspace, htext⟩
    have htrim : trim text = recordWord.toList ++ (space ++ '\x7b' :: (body ++ ['\x7d'])) := by
      refine trim_of_isPadded ?_ htext
      have hframe := isTrimmed_frame (space ++ '\x7b' :: body)
      rwa [List.append_assoc, List.cons_append] at hframe
    have hstart : trimStart (space ++ '\x7b' :: (body ++ ['\x7d'])) =
        ['\x7b'] ++ (body ++ ['\x7d']) := by
      rw [trimStart_append hspace]
      exact trimStart_cons (by decide) _
    have hend : trimEnd (body ++ ['\x7d']) = body ++ ['\x7d'] :=
      trimEnd_append_singleton (by decide) body
    simp only [body?, htrim, Option.bind_eq_bind, isPrefixOf?_eq_some_iff.mpr rfl,
      Option.bind_some, hstart, hend, isSuffixOf?_eq_some_iff.mpr rfl]

theorem IsFramed.unique {body other text : Text} (hbody : IsFramed body text)
    (hother : IsFramed other text) : body = other :=
  Option.some.inj ((body?_eq_some_iff.mpr hbody).symm.trans (body?_eq_some_iff.mpr hother))

theorem comma_not_mem_of_mem_splitOn {text field : Text} (hfield : field ∈ text.splitOn ',') :
    ',' ∉ field := by
  induction text generalizing field with
  | nil =>
      rw [List.splitOn_nil, List.mem_singleton] at hfield
      rw [hfield]
      exact List.not_mem_nil
  | cons c rest ih =>
      rw [List.splitOn_cons_eq_if_modifyHead] at hfield
      split at hfield
      · rcases List.mem_cons.mp hfield with rfl | hrest
        · exact List.not_mem_nil
        · exact ih hrest
      next hc =>
        obtain ⟨first, others, hsplit⟩ :=
          List.exists_cons_of_ne_nil (List.splitOn_ne_nil ',' rest)
        rw [hsplit, List.modifyHead_cons] at hfield
        rcases List.mem_cons.mp hfield with rfl | hothers
        · rw [List.mem_cons, not_or]
          have hfirst : ',' ∉ first := ih (hsplit ▸ List.mem_cons_self)
          exact ⟨fun heq => hc (beq_iff_eq.mpr heq.symm), hfirst⟩
        · exact ih (hsplit ▸ List.mem_cons_of_mem first hothers)

theorem isDivided_iff {text : Text} {fields : List Text} :
    IsDivided text fields ↔ text.splitOn ',' = fields := by
  constructor
  · rintro ⟨hne, hcomma, rfl⟩
    exact List.splitOn_intercalate ',' hcomma hne
  · rintro rfl
    exact ⟨List.splitOn_ne_nil ',' text, fun _ => comma_not_mem_of_mem_splitOn,
      List.intercalate_splitOn ','⟩

theorem IsDivided.unique {text : Text} {fields others : List Text}
    (hfields : IsDivided text fields) (hothers : IsDivided text others) : fields = others :=
  (isDivided_iff.mp hfields).symm.trans (isDivided_iff.mp hothers)

/-! ## Entries -/

theorem findSome?_of_perm
    {β : Type} {record : Record} {entries : List Entry} (hperm : entries.Perm (entriesOf record))
    {f : Entry → Option β} {value : β} (hvalue : (entriesOf record).findSome? f = some value)
    (honly : ∀ entry ∈ entriesOf record, ∀ other, f entry = some other → other = value) :
    entries.findSome? f = some value := by
  cases hfind : entries.findSome? f with
  | none =>
      rw [List.findSome?_eq_none_iff] at hfind
      have hnone : (entriesOf record).findSome? f = none :=
        List.findSome?_eq_none_iff.mpr fun entry hentry => hfind entry (hperm.mem_iff.mpr hentry)
      cases hvalue.symm.trans hnone
  | some other =>
      obtain ⟨entry, hentry, hother⟩ := List.exists_of_findSome?_eq_some hfind
      rw [honly entry (hperm.mem_iff.mp hentry) other hother]

/-- The order of its entries does not matter to a record. -/
theorem ofEntries?_of_perm {record : Record} {entries : List Entry}
    (hperm : entries.Perm (entriesOf record)) : ofEntries? entries = some record := by
  rw [ofEntries?, findSome?_of_perm hperm rfl (by simp [entriesOf]),
    findSome?_of_perm hperm rfl (by simp [entriesOf]),
    findSome?_of_perm hperm rfl (by simp [entriesOf]),
    findSome?_of_perm hperm rfl (by simp [entriesOf])]
  rfl

theorem nodup_entriesOf (record : Record) : (entriesOf record).Nodup := by
  simp [entriesOf]

/-- Entries with different keys that are as many as there are keys are those of a
record. -/
theorem exists_perm_entriesOf {entries : List Entry} (hkeys : (entries.map Entry.key).Nodup)
    (hlength : entries.length = Key.all.length) :
    ∃ record, entries.Perm (entriesOf record) := by
  have hall : (entries.map Entry.key).Perm Key.all := by
    refine (hkeys.subperm fun key _ => ?_).perm_of_length_le ?_
    · cases key <;> decide
    · rw [List.length_map, hlength]
  have hentry : ∀ key, ∃ entry ∈ entries, entry.key = key := by
    intro key
    refine List.mem_map.mp (hall.mem_iff.mpr ?_)
    cases key <;> decide
  obtain ⟨setIndex | _ | _ | _, hsetIndex, ⟨⟩⟩ := hentry .setIndex
  obtain ⟨_ | tag | _ | _, htag, ⟨⟩⟩ := hentry .tag
  obtain ⟨_ | _ | lastUsed | _, hlastUsed, ⟨⟩⟩ := hentry .lastUsed
  obtain ⟨_ | _ | _ | state, hstate, ⟨⟩⟩ := hentry .state
  let record : Record := ⟨setIndex, tag, lastUsed, state⟩
  have hsubset : entriesOf record ⊆ entries := by
    simp [entriesOf, record, hsetIndex, htag, hlastUsed, hstate]
  have hrecord : (entriesOf record).Perm entries :=
    ((nodup_entriesOf record).subperm hsubset).perm_of_length_le hlength.le
  exact ⟨record, hrecord.symm⟩

/-! ## Records -/

section Record

variable {text body : Text} {fields : List Text}

theorem readRecord_of_not_framed (hframed : ∀ body, ¬IsFramed body text) :
    readRecord text = .error .malformedRecord := by
  have hbody : body? text = none := by
    rw [Option.eq_none_iff_forall_ne_some]
    exact fun body hbody => hframed body (body?_eq_some_iff.mp hbody)
  rw [readRecord, hbody]

variable (hframed : IsFramed body text) (hdivided : IsDivided body fields)

include hframed hdivided

theorem readRecord_of_length_ne (hlength : fields.length ≠ 4) :
    readRecord text = .error (.fieldCount fields.length) := by
  rw [readRecord, body?_eq_some_iff.mpr hframed]
  simp only [isDivided_iff.mp hdivided]
  exact if_pos hlength

theorem readRecord_of_length_eq (hlength : fields.length = 4) :
    readRecord text =
      match readFields [] fields with
      | .error error => .error error
      | .ok entries =>
        match ofEntries? entries with
        | some record => .ok record
        | none => .error .malformedRecord := by
  rw [readRecord, body?_eq_some_iff.mpr hframed]
  simp only [isDivided_iff.mp hdivided]
  exact if_neg (not_not.mpr hlength)

theorem readRecord_of_error (hlength : fields.length = 4) {error : LiteralError}
    (herror : readFields [] fields = .error error) : readRecord text = .error error := by
  rw [readRecord_of_length_eq hframed hdivided hlength, herror]

/-- Four fields without an error are those of a record. -/
theorem exists_readRecord_of_ok (hlength : fields.length = 4) {entries : List Entry}
    (hentries : readFields [] fields = .ok entries) :
    ∃ record, entries.Perm (entriesOf record) ∧ readRecord text = .ok record := by
  obtain ⟨hread, hkeys, -⟩ := readFields_eq_ok_iff.mp hentries
  obtain ⟨record, hperm⟩ := exists_perm_entriesOf hkeys (hread.length_eq ▸ hlength)
  refine ⟨record, hperm, ?_⟩
  rw [readRecord_of_length_eq hframed hdivided hlength, hentries]
  simp only [ofEntries?_of_perm hperm]

end Record

/-- All that can come of reading a text. -/
inductive ReadsAs (text : Text) : Except LiteralError Record → Prop
  | unframed (hframed : ∀ body, ¬IsFramed body text) : ReadsAs text (.error .malformedRecord)
  | miscounted {body : Text} {fields : List Text} (hframed : IsFramed body text)
      (hdivided : IsDivided body fields) (hlength : fields.length ≠ 4) :
      ReadsAs text (.error (.fieldCount fields.length))
  | refused {body : Text} {fields : List Text} {error : LiteralError}
      (hframed : IsFramed body text) (hdivided : IsDivided body fields)
      (herror : readFields [] fields = .error error) : ReadsAs text (.error error)
  | accepted {body : Text} {fields : List Text} {entries : List Entry} {record : Record}
      (hframed : IsFramed body text) (hdivided : IsDivided body fields)
      (hentries : readFields [] fields = .ok entries)
      (hperm : entries.Perm (entriesOf record)) : ReadsAs text (.ok record)

theorem readsAs_readRecord (text : Text) : ReadsAs text (readRecord text) := by
  by_cases hframed : ∃ body, IsFramed body text
  · obtain ⟨body, hframed⟩ := hframed
    have hdivided : IsDivided body (body.splitOn ',') := isDivided_iff.mpr rfl
    by_cases hlength : (body.splitOn ',').length = 4
    · cases hfields : readFields [] (body.splitOn ',') with
      | error error =>
          rw [readRecord_of_error hframed hdivided hlength hfields]
          exact .refused hframed hdivided hfields
      | ok entries =>
          obtain ⟨record, hperm, hrecord⟩ :=
            exists_readRecord_of_ok hframed hdivided hlength hfields
          rw [hrecord]
          exact .accepted hframed hdivided hfields hperm
    · rw [readRecord_of_length_ne hframed hdivided hlength]
      exact .miscounted hframed hdivided hlength
  · rw [readRecord_of_not_framed (not_exists.mp hframed)]
    exact .unframed (not_exists.mp hframed)

theorem isLiteralOf_of_readRecord {record : Record} {text : Text}
    (h : readRecord text = .ok record) : IsLiteralOf record text := by
  have hreads := readsAs_readRecord text
  rw [h] at hreads
  cases hreads with
  | accepted hframed hdivided hentries hperm =>
      obtain ⟨hread, -, -⟩ := readFields_eq_ok_iff.mp hentries
      exact ⟨_, _, _, hframed, hdivided, hread.flip.imp fun _ _ => isFieldOf_iff.mpr, hperm⟩

theorem IsLiteralOf.readRecord_eq {record : Record} {text : Text} (h : IsLiteralOf record text) :
    readRecord text = .ok record := by
  obtain ⟨body, fields, entries, hframed, hdivided, hfields, hperm⟩ := h
  have hlength : fields.length = 4 := hfields.length_eq.symm.trans hperm.length_eq
  have hread : List.Forall₂ (fun field entry => readField field = .ok entry) fields entries :=
    hfields.flip.imp fun _ _ => isFieldOf_iff.mp
  have hkeys : (entries.map Entry.key).Nodup :=
    (hperm.map Entry.key).nodup_iff.mpr (by simp [entriesOf, Entry.key])
  have hentries : readFields [] fields = .ok entries :=
    readFields_eq_ok_iff.mpr ⟨hread, hkeys, by simp⟩
  rw [readRecord_of_length_eq hframed hdivided hlength, hentries]
  simp only [ofEntries?_of_perm hperm]

/-- The fields of a literal can be put in another order, and any white space around them. -/
theorem IsLiteralOf.reorder {record : Record} {text body : Text} {fields : List Text}
    (h : IsLiteralOf record text) (hframed : IsFramed body text) (hdivided : IsDivided body fields)
    {reordered : List Text} (hreordered : reordered.Perm fields) {other : Text}
    (hother : IsFramed ([','].intercalate reordered) other) : IsLiteralOf record other := by
  obtain ⟨body', fields', entries, hframed', hdivided', hfields, hperm⟩ := h
  obtain rfl := hframed'.unique hframed
  obtain rfl := hdivided'.unique hdivided
  obtain ⟨entries', hentries, hperm'⟩ := List.perm_comp_forall₂ hreordered hfields.flip
  have hparts : IsDivided ([','].intercalate reordered) reordered := by
    refine ⟨fun hnil => ?_, fun field hfield => ?_, rfl⟩
    · exact hdivided.ne_nil (List.nil_perm.mp (hnil ▸ hreordered))
    · exact hdivided.comma_not_mem field (hreordered.mem_iff.mp hfield)
  exact ⟨_, reordered, entries', hother, hparts, hentries.flip, hperm'.trans hperm⟩

/-- The texts that are read as a record are its literals, and the order of the fields of a
literal does not matter. -/
theorem readRecord_eq_ok_iff_isLiteralOf (record : Record) :
    (∀ text, readRecord text = .ok record ↔ IsLiteralOf record text) ∧
    ∀ text body fields, readRecord text = .ok record → IsFramed body text →
      IsDivided body fields → ∀ reordered other, reordered.Perm fields →
        IsFramed ([','].intercalate reordered) other → readRecord other = .ok record := by
  constructor
  · intro text
    exact ⟨isLiteralOf_of_readRecord, IsLiteralOf.readRecord_eq⟩
  · intro text body fields hread hframed hdivided reordered other hreordered hother
    have hliteral : IsLiteralOf record text := isLiteralOf_of_readRecord hread
    exact (hliteral.reorder hframed hdivided hreordered hother).readRecord_eq

/-- A literal with a sign, leading zeros and blanks, and one with its fields the other way
round. -/
theorem readRecord_of_turned_fields :
    readRecord "CacheLine\x7bset_index:3,tag:9 , last_used:+018,status :S\x7d".toList =
        .ok ⟨3, 9, 18, .shared⟩ ∧
      readRecord "\tCacheLine \x7bstatus :S, last_used:+018,tag:9 ,set_index:3\x7d\n".toList =
        .ok ⟨3, 9, 18, .shared⟩ := by
  let fields := ["set_index:3", "tag:9 ", " last_used:+018", "status :S"].map String.toList
  have hread : readRecord
      "CacheLine\x7bset_index:3,tag:9 , last_used:+018,status :S\x7d".toList =
        .ok ⟨3, 9, 18, .shared⟩ := by
    decide +kernel
  have hframed : IsFramed ([','].intercalate fields)
      "CacheLine\x7bset_index:3,tag:9 , last_used:+018,status :S\x7d".toList :=
    body?_eq_some_iff.mp (by decide +kernel)
  have hother : IsFramed ([','].intercalate fields.reverse)
      "\tCacheLine \x7bstatus :S, last_used:+018,tag:9 ,set_index:3\x7d\n".toList :=
    body?_eq_some_iff.mp (by decide +kernel)
  refine ⟨hread, ?_⟩
  exact (readRecord_eq_ok_iff_isLiteralOf _).2 _ _ fields hread hframed
    (isDivided_iff.mpr (by decide +kernel)) _ _ (List.reverse_perm fields) hother

end CacheCoherence.Dump
