import CacheCoherence.Proofs.Dump.LiteralForm
import Mathlib.Data.List.Induction

/-!
# What is wrong with a literal

Several things can be wrong with a text that is no literal.  The frame comes first and
the number of fields second; of four fields the leftmost one that offends decides.  A
field offends by itself, or by having the key of a field in front of it when its value is
good.

The fields in front of the leftmost offence are read, and the run of the reader over them
ends with the keys that have been given.  So the proof goes from one end of the fields to
the other: a row of fields is read as a whole, or there is an offence behind a part of it
that is read.
-/

namespace CacheCoherence.Dump

open Text

/-! ## Offences -/

/-- What is wrong with a field behind these earlier ones. -/
inductive IsOffence (earlier : List Text) (field : Text) : LiteralError → Prop
  | unpaired (hcolon : ':' ∉ field) :
      IsOffence earlier field (.malformedField (String.ofList (trim field)))
  | unknown {key value : Text} (hpair : IsPair field key value)
      (hkey : ∀ known : Key, key ≠ known.name.toList) :
      IsOffence earlier field (.unknownField (String.ofList key))
  | number {key : Key} {value : Text} (hpair : IsPair field key.name.toList value)
      (hkey : key ≠ .state) (hvalue : ∀ number < 2 ^ 64, ¬IsSignedNumeral value number) :
      IsOffence earlier field (.invalidNumber key (String.ofList value))
  | state {value : Text} (hpair : IsPair field Key.state.name.toList value)
      (hvalue : ∀ state : LineState, value ≠ [state.letter]) :
      IsOffence earlier field (.unknownStatus (String.ofList value))
  | repeated {entry : Entry} {other value : Text} (hfield : IsFieldOf entry field)
      (hother : other ∈ earlier) (hpair : IsPair other entry.key.name.toList value) :
      IsOffence earlier field (.duplicateField entry.key)

/-- Of the fields that offend behind those in front of them, the leftmost does so with
this error. -/
def IsFirstOffence (fields : List Text) (error : LiteralError) : Prop :=
  ∃ front field back, fields = front ++ field :: back ∧ IsOffence front field error ∧
    ∀ before earlier behind, front = before ++ earlier :: behind →
      ∀ other, ¬IsOffence before earlier other

/-! ## A field by itself -/

theorem Key.name_toList_injective {key other : Key}
    (h : key.name.toList = other.name.toList) : key = other := by
  have hkey := ofName?_name key
  rw [h, ofName?_name] at hkey
  exact (Option.some.inj hkey).symm

theorem Key.ofName?_eq_none_iff {name : Text} :
    Key.ofName? name = none ↔ ∀ key : Key, name ≠ key.name.toList := by
  rw [Option.eq_none_iff_forall_ne_some]
  exact forall_congr' fun key => not_congr ofName?_eq_some_iff

theorem word64?_eq_none_iff {text : Text} :
    word64? text = none ↔ ∀ number < 2 ^ 64, ¬IsSignedNumeral text number := by
  rw [Option.eq_none_iff_forall_ne_some]
  constructor
  · intro h number hlt hnumeral
    refine h (UInt64.ofNat number) (word64?_eq_some_iff.mpr ?_)
    rwa [UInt64.toNat_ofNat_of_lt' hlt]
  · intro h word hword
    exact h word.toNat word.toNat_lt (word64?_eq_some_iff.mp hword)

theorem ofLetter?_eq_none_iff {text : Text} :
    LineState.ofLetter? text = none ↔ ∀ state : LineState, text ≠ [state.letter] := by
  rw [Option.eq_none_iff_forall_ne_some]
  exact forall_congr' fun state => not_congr LineState.ofLetter?_eq_some_iff

theorem readNumber_eq_error_iff {key : Key} {value : Text} {error : LiteralError} :
    readNumber key value = .error error ↔
      (∀ number < 2 ^ 64, ¬IsSignedNumeral value number) ∧
        error = .invalidNumber key (String.ofList value) := by
  rw [← word64?_eq_none_iff, readNumber]
  cases word64? value with
  | none => simp [eq_comm]
  | some word => simp

theorem readValue_state_eq_error_iff {value : Text} {error : LiteralError} :
    readValue .state value = .error error ↔
      (∀ state : LineState, value ≠ [state.letter]) ∧
        error = .unknownStatus (String.ofList value) := by
  rw [← ofLetter?_eq_none_iff, readValue]
  cases LineState.ofLetter? value with
  | none => simp [eq_comm]
  | some state => simp

theorem readValue_eq_error_iff {key : Key} (hkey : key ≠ .state) {value : Text}
    {error : LiteralError} :
    readValue key value = .error error ↔ readNumber key value = .error error := by
  cases key with
  | state => exact absurd rfl hkey
  | setIndex | tag | lastUsed =>
      rw [readValue]
      cases readNumber _ value with
      | error other => simp [Except.map]
      | ok number => simp [Except.map]

/-- A field that is not read offends by itself, wherever it stands. -/
theorem isOffence_of_readField {earlier : List Text} {field : Text} {error : LiteralError}
    (h : readField field = .error error) : IsOffence earlier field error := by
  by_cases hcolon : ':' ∈ field
  · obtain ⟨name, value, hpair⟩ := exists_isPair hcolon
    rw [readField_of_isPair hpair] at h
    split at h
    next hname =>
      cases h
      exact .unknown hpair (Key.ofName?_eq_none_iff.mp hname)
    next key hname =>
      rw [Key.ofName?_eq_some_iff.mp hname] at hpair
      by_cases hkey : key = .state
      · subst hkey
        obtain ⟨hvalue, rfl⟩ := readValue_state_eq_error_iff.mp h
        exact .state hpair hvalue
      · obtain ⟨hvalue, rfl⟩ := readNumber_eq_error_iff.mp ((readValue_eq_error_iff hkey).mp h)
        exact .number hpair hkey hvalue
  · rw [readField_of_not_mem hcolon] at h
    cases h
    exact .unpaired hcolon

theorem isOffence_iff {earlier : List Text} {field : Text} {error : LiteralError} :
    IsOffence earlier field error ↔
      readField field = .error error ∨
        ∃ entry, readField field = .ok entry ∧ error = .duplicateField entry.key ∧
          ∃ other ∈ earlier, ∃ value, IsPair other entry.key.name.toList value := by
  constructor
  · intro h
    cases h with
    | unpaired hcolon => exact Or.inl (readField_of_not_mem hcolon)
    | unknown hpair hkey =>
        left
        rw [readField_of_isPair hpair, Key.ofName?_eq_none_iff.mpr hkey]
    | number hpair hkey hvalue =>
        left
        rw [readField_of_isPair hpair, Key.ofName?_name]
        exact (readValue_eq_error_iff hkey).mpr (readNumber_eq_error_iff.mpr ⟨hvalue, rfl⟩)
    | state hpair hvalue =>
        left
        rw [readField_of_isPair hpair, Key.ofName?_name]
        exact readValue_state_eq_error_iff.mpr ⟨hvalue, rfl⟩
    | repeated hfield hother hpair =>
        exact Or.inr ⟨_, isFieldOf_iff.mp hfield, rfl, _, hother, _, hpair⟩
  · rintro (herror | ⟨entry, hentry, rfl, other, hother, value, hpair⟩)
    · exact isOffence_of_readField herror
    · exact .repeated (isFieldOf_iff.mpr hentry) hother hpair

/-! ## Rows of fields -/

/-- Behind fields that are read, the reader knows their keys. -/
theorem readFields_append {seen : List Key} {front : List Text} {entries : List Entry}
    (hfront : readFields seen front = .ok entries) (back : List Text) :
    readFields seen (front ++ back) =
      (readFields ((entries.map Entry.key).reverse ++ seen) back).map (entries ++ ·) := by
  induction front generalizing seen entries with
  | nil =>
      cases hfront
      cases hback : readFields seen back with
      | error error => simp [hback, Except.map]
      | ok others => simp [hback, Except.map]
  | cons field rest ih =>
      obtain ⟨entry, others, rfl, hentry, hnew, hrest⟩ := readFields_cons_eq_ok_iff.mp hfront
      rw [List.cons_append, readFields, hentry]
      simp only [if_neg hnew, ih hrest]
      rw [List.map_cons, List.reverse_cons, List.append_assoc, List.singleton_append]
      cases readFields ((others.map Entry.key).reverse ++ entry.key :: seen) back with
      | error error => rfl
      | ok more => rfl

/-- The keys of fields that are read are those of their entries. -/
theorem exists_isPair_iff {fields : List Text} {entries : List Entry}
    (hread : List.Forall₂ (fun field entry => readField field = .ok entry) fields entries)
    {key : Key} :
    (∃ field ∈ fields, ∃ value, IsPair field key.name.toList value) ↔
      key ∈ entries.map Entry.key := by
  induction hread with
  | nil => simp
  | @cons field entry rest others hfield _ ih =>
      obtain ⟨value, hpair, -⟩ := readField_eq_ok_iff.mp hfield
      have hfirst : (∃ value, IsPair field key.name.toList value) ↔ key = entry.key := by
        constructor
        · rintro ⟨other, hother⟩
          exact Key.name_toList_injective (hother.unique hpair).1
        · rintro rfl
          exact ⟨value, hpair⟩
      rw [List.map_cons, List.mem_cons, ← hfirst, ← ih]
      simp only [List.exists_mem_cons_iff]

/-- The reader stops at an offence behind fields that are read. -/
theorem readFields_of_isOffence {front back : List Text} {field : Text} {entries : List Entry}
    {error : LiteralError} (hfront : readFields [] front = .ok entries)
    (hoffence : IsOffence front field error) :
    readFields [] (front ++ field :: back) = .error error := by
  obtain ⟨hread, -, -⟩ := readFields_eq_ok_iff.mp hfront
  rw [readFields_append hfront, List.append_nil, readFields]
  rcases isOffence_iff.mp hoffence with herror | ⟨entry, hentry, rfl, hgiven⟩
  · rw [herror]
    rfl
  · have hkey : entry.key ∈ (entries.map Entry.key).reverse :=
      List.mem_reverse.mpr ((exists_isPair_iff hread).mp hgiven)
    rw [hentry]
    simp only [if_pos hkey]
    rfl

/-- A row of fields is read, or it has an offence behind fields that are read. -/
theorem readFields_or_isOffence (fields : List Text) :
    (∃ entries, readFields [] fields = .ok entries) ∨
      ∃ front field back error entries, fields = front ++ field :: back ∧
        readFields [] front = .ok entries ∧ IsOffence front field error := by
  induction fields using List.reverseRecOn with
  | nil => exact Or.inl ⟨[], rfl⟩
  | append_singleton front field ih =>
      rcases ih with ⟨entries, hfront⟩ | ⟨before, earlier, behind, error, entries, rfl, hoffence⟩
      · cases hfield : readField field with
        | error error =>
            exact Or.inr ⟨front, field, [], error, entries, rfl, hfront,
              isOffence_of_readField hfield⟩
        | ok entry =>
            obtain ⟨hread, -, -⟩ := readFields_eq_ok_iff.mp hfront
            by_cases hkey : entry.key ∈ entries.map Entry.key
            · have hgiven := (exists_isPair_iff hread).mpr hkey
              have hoffence : IsOffence front field (.duplicateField entry.key) :=
                isOffence_iff.mpr (Or.inr ⟨entry, hfield, rfl, hgiven⟩)
              exact Or.inr ⟨front, field, [], _, entries, rfl, hfront, hoffence⟩
            · have hlast : readFields ((entries.map Entry.key).reverse ++ []) [field] =
                  .ok [entry] := by
                refine readFields_cons_eq_ok_iff.mpr ⟨entry, [], rfl, hfield, ?_, rfl⟩
                rwa [List.append_nil, List.mem_reverse]
              refine Or.inl ⟨entries ++ [entry], ?_⟩
              rw [readFields_append hfront, hlast]
              rfl
      · exact Or.inr ⟨before, earlier, behind ++ [field], error, entries, by simp, hoffence⟩

theorem exists_readFields_iff {fields : List Text} :
    (∃ entries, readFields [] fields = .ok entries) ↔
      ∀ front field back, fields = front ++ field :: back → ∀ error,
        ¬IsOffence front field error := by
  constructor
  · rintro ⟨entries, hfields⟩ front field back rfl error hoffence
    -- What stands in front of the offence may have an earlier one.
    rcases readFields_or_isOffence front with
      ⟨others, hfront⟩ | ⟨before, earlier, behind, error', others, rfl, hbefore, hearlier⟩
    · rw [readFields_of_isOffence hfront hoffence] at hfields
      cases hfields
    · rw [List.append_assoc, List.cons_append, readFields_of_isOffence hbefore hearlier] at hfields
      cases hfields
  · intro hnone
    refine (readFields_or_isOffence fields).resolve_right ?_
    rintro ⟨front, field, back, error, entries, hfields, -, hoffence⟩
    exact hnone front field back hfields error hoffence

/-- The leftmost offence decides. -/
theorem readFields_eq_error_iff {fields : List Text} {error : LiteralError} :
    readFields [] fields = .error error ↔ IsFirstOffence fields error := by
  constructor
  · intro h
    rcases readFields_or_isOffence fields with
      ⟨entries, hfields⟩ | ⟨front, field, back, other, entries, rfl, hfront, hoffence⟩
    · rw [hfields] at h
      cases h
    · rw [readFields_of_isOffence hfront hoffence] at h
      cases h
      exact ⟨front, field, back, rfl, hoffence, exists_readFields_iff.mp ⟨entries, hfront⟩⟩
  · rintro ⟨front, field, back, rfl, hoffence, hnone⟩
    obtain ⟨entries, hfront⟩ := exists_readFields_iff.mpr hnone
    exact readFields_of_isOffence hfront hoffence

/-! ## Texts that are no literals -/

theorem IsFirstOffence.ne {fields : List Text} {error : LiteralError}
    (h : IsFirstOffence fields error) :
    error ≠ .malformedRecord ∧ ∀ count, error ≠ .fieldCount count := by
  obtain ⟨front, field, back, -, hoffence, -⟩ := h
  cases hoffence <;> exact ⟨nofun, nofun⟩

/-- A text that is no literal is refused because of its frame, because of the number of its
fields, or because of the leftmost field that offends, in this order. -/
theorem readRecord_refuses_first_offence (text : Text) :
    (readRecord text = .error .malformedRecord ↔ ∀ body, ¬IsFramed body text) ∧
    (∀ count, readRecord text = .error (.fieldCount count) ↔
      ∃ body fields, IsFramed body text ∧ IsDivided body fields ∧ fields.length = count ∧
        count ≠ 4) ∧
    ∀ body fields, IsFramed body text → IsDivided body fields → fields.length = 4 →
      ∀ error, readRecord text = .error error ↔ IsFirstOffence fields error := by
  have hreads := readsAs_readRecord text
  refine ⟨⟨fun h => ?_, readRecord_of_not_framed⟩, fun count => ⟨fun h => ?_, ?_⟩, ?_⟩
  · rw [h] at hreads
    cases hreads with
    | unframed hframed => exact hframed
    | refused _ _ herror => exact absurd rfl (readFields_eq_error_iff.mp herror).ne.1
  · rw [h] at hreads
    cases hreads with
    | miscounted hframed hdivided hlength => exact ⟨_, _, hframed, hdivided, rfl, hlength⟩
    | refused _ _ herror => exact absurd rfl ((readFields_eq_error_iff.mp herror).ne.2 count)
  · rintro ⟨body, fields, hframed, hdivided, rfl, hlength⟩
    exact readRecord_of_length_ne hframed hdivided hlength
  · intro body fields hframed hdivided hlength error
    rw [← readFields_eq_error_iff]
    cases hfields : readFields [] fields with
    | error other =>
        rw [readRecord_of_error hframed hdivided hlength hfields, Except.error.injEq,
          Except.error.injEq]
    | ok entries =>
        obtain ⟨record, -, hrecord⟩ := exists_readRecord_of_ok hframed hdivided hlength hfields
        rw [hrecord]
        exact iff_of_false nofun nofun

/-- A number that is none comes in front of an unknown key and of a field without a colon, and
before the key that it repeats. -/
theorem readRecord_refuses_first_offence_of_three :
    let text := "CacheLine\x7btag: 1, tag: x, size: 2, 7\x7d".toList
    let fields := ["tag: 1", " tag: x", " size: 2", " 7"].map String.toList
    IsFramed ([','].intercalate fields) text ∧ IsDivided ([','].intercalate fields) fields ∧
      readRecord text = .error (.invalidNumber .tag "x") ∧
      IsFirstOffence fields (.invalidNumber .tag "x") := by
  intro text fields
  have hframed : IsFramed ([','].intercalate fields) text :=
    body?_eq_some_iff.mp (by decide +kernel)
  have hdivided : IsDivided ([','].intercalate fields) fields :=
    isDivided_iff.mpr (by decide +kernel)
  have hread : readRecord text = .error (.invalidNumber .tag "x") := by decide +kernel
  refine ⟨hframed, hdivided, hread, ?_⟩
  exact ((readRecord_refuses_first_offence text).2.2 _ fields hframed hdivided rfl _).mp hread

end CacheCoherence.Dump
