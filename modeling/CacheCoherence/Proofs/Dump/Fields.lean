import CacheCoherence.Dump.Literal
import CacheCoherence.Proofs.Text.Numeral
import CacheCoherence.Proofs.Text.Padding
import Mathlib.Data.List.Forall2

/-!
# Fields of literals

A field is a key, a colon and a value, with white space around the key and around the
value.  No key has a colon, so the first colon of a field is the one between the two, and
a field is read as the entry that it was made of.

Fields are read from left to right.  Each of them is read by itself, and the others matter
only for their keys, which have to be different.
-/

namespace CacheCoherence.Dump

open Text

/-! ## The description of a field -/

/-- A text for the value of an entry. -/
def Entry.IsValue : Entry → Text → Prop
  | setIndex value, text => IsSignedNumeral text value.toNat
  | tag value, text => IsSignedNumeral text value.toNat
  | lastUsed value, text => IsSignedNumeral text value.toNat
  | state value, text => text = [value.letter]

/-- The field consists of the key of the entry, a colon and a value of the entry. -/
def IsFieldOf (entry : Entry) (field : Text) : Prop :=
  ∃ key value text, field = key ++ ':' :: text ∧ IsPadded entry.key.name.toList key ∧
    IsPadded value text ∧ entry.IsValue value

/-- Around its first colon the field has this key and this value, white space apart. -/
def IsPair (field key value : Text) : Prop :=
  ∃ before behind, field = before ++ ':' :: behind ∧ ':' ∉ before ∧ trim before = key ∧
    trim behind = value

/-! ## Keys and values -/

theorem Key.ofName?_name (key : Key) : ofName? key.name.toList = some key := by
  cases key <;> decide

theorem Key.ofName?_eq_some_iff {name : Text} {key : Key} :
    Key.ofName? name = some key ↔ name = key.name.toList := by
  constructor
  · intro h
    rw [ofName?] at h
    have hname := List.find?_some h
    exact (of_decide_eq_true hname).symm
  · rintro rfl
    exact ofName?_name key

theorem Key.isBlank_of_mem_name {key : Key} {c : Char} (hc : c ∈ key.name.toList) :
    isBlank c = false := by
  have hall : key.name.toList.all (fun c => !isBlank c) = true := by cases key <;> decide
  simpa using List.all_eq_true.mp hall c hc

theorem Key.not_mem_name {key : Key} {c : Char} (hc : c = ':' ∨ c = ',') :
    c ∉ key.name.toList := by
  rcases hc with rfl | rfl <;> cases key <;> decide

theorem isBlank_letter (state : LineState) : isBlank state.letter = false := by
  cases state <;> decide

theorem readNumber_eq_ok_iff {key : Key} {value : Text} {number : UInt64} :
    readNumber key value = .ok number ↔ IsSignedNumeral value number.toNat := by
  rw [← word64?_eq_some_iff, readNumber]
  cases word64? value with
  | none => simp
  | some word => simp

theorem readValue_eq_ok_iff {key : Key} {value : Text} {entry : Entry} :
    readValue key value = .ok entry ↔ entry.key = key ∧ entry.IsValue value := by
  constructor
  · intro h
    cases key with
    | state =>
        rw [readValue] at h
        split at h
        next state hstate =>
          cases h
          exact ⟨rfl, LineState.ofLetter?_eq_some_iff.mp hstate⟩
        next => cases h
    | setIndex | tag | lastUsed =>
        rw [readValue] at h
        cases hnumber : readNumber _ value with
        | error error =>
            rw [hnumber] at h
            cases h
        | ok number =>
            rw [hnumber] at h
            cases h
            exact ⟨rfl, readNumber_eq_ok_iff.mp hnumber⟩
  · rintro ⟨rfl, hvalue⟩
    cases entry with
    | state state => simp only [Entry.key, readValue, LineState.ofLetter?_eq_some_iff.mpr hvalue]
    | setIndex number | tag number | lastUsed number =>
        have hnumber : ∀ key, readNumber key value = .ok number :=
          fun key => readNumber_eq_ok_iff.mpr hvalue
        simp only [Entry.key, readValue, hnumber]
        rfl

theorem Entry.IsValue.isTrimmed {entry : Entry} {value : Text} (h : entry.IsValue value) :
    IsTrimmed value := by
  apply isTrimmed_of_forall
  intro c hc
  cases entry with
  | state state =>
      rw [h, List.mem_singleton] at hc
      rw [hc]
      exact isBlank_letter state
  | setIndex number | tag number | lastUsed number =>
      obtain ⟨digits, rfl | rfl, hdigits⟩ := h
      · exact isBlank_eq_false_of_isDigit (hdigits.isDigit c hc)
      · rcases List.mem_cons.mp hc with rfl | hc
        · decide
        · exact isBlank_eq_false_of_isDigit (hdigits.isDigit c hc)

/-! ## A field by itself -/

theorem exists_isPair {field : Text} (hcolon : ':' ∈ field) :
    ∃ key value, IsPair field key value := by
  obtain ⟨before, behind, hfield, hbefore⟩ := List.eq_append_cons_of_mem hcolon
  exact ⟨_, _, before, behind, hfield, hbefore, rfl, rfl⟩

theorem IsPair.unique {field key value key' value' : Text} (h : IsPair field key value)
    (h' : IsPair field key' value') : key = key' ∧ value = value' := by
  obtain ⟨before, behind, hfield, hbefore, rfl, rfl⟩ := h
  obtain ⟨before', behind', hfield', hbefore', rfl, rfl⟩ := h'
  have hcut : cut? ':' field = some (before, behind) := cut?_eq_some_iff.mpr ⟨hfield, hbefore⟩
  rw [cut?_eq_some_iff.mpr ⟨hfield', hbefore'⟩] at hcut
  cases hcut
  exact ⟨rfl, rfl⟩

theorem readField_of_not_mem {field : Text} (hcolon : ':' ∉ field) :
    readField field = .error (.malformedField (String.ofList (trim field))) := by
  rw [readField, cut?_eq_none_iff.mpr hcolon]

theorem readField_of_isPair {field key value : Text} (hpair : IsPair field key value) :
    readField field =
      match Key.ofName? key with
      | none => .error (.unknownField (String.ofList key))
      | some key => readValue key value := by
  obtain ⟨before, behind, rfl, hbefore, rfl, rfl⟩ := hpair
  have hcut : cut? ':' (before ++ ':' :: behind) = some (before, behind) :=
    cut?_eq_some_iff.mpr ⟨rfl, hbefore⟩
  cases hkey : Key.ofName? (trim before) with
  | none => simp only [readField, hcut, hkey]
  | some key => simp only [readField, hcut, hkey]

theorem readField_eq_ok_iff {field : Text} {entry : Entry} :
    readField field = .ok entry ↔
      ∃ value, IsPair field entry.key.name.toList value ∧ entry.IsValue value := by
  constructor
  · intro h
    by_cases hcolon : ':' ∈ field
    · obtain ⟨key, value, hpair⟩ := exists_isPair hcolon
      rw [readField_of_isPair hpair] at h
      split at h
      · cases h
      next hkey =>
        obtain ⟨rfl, hvalue⟩ := readValue_eq_ok_iff.mp h
        rw [Key.ofName?_eq_some_iff.mp hkey] at hpair
        exact ⟨value, hpair, hvalue⟩
    · rw [readField_of_not_mem hcolon] at h
      cases h
  · rintro ⟨value, hpair, hvalue⟩
    rw [readField_of_isPair hpair, Key.ofName?_name]
    exact readValue_eq_ok_iff.mpr ⟨rfl, hvalue⟩

/-- A field is read as the entry whose key and value it consists of. -/
theorem isFieldOf_iff {entry : Entry} {field : Text} :
    IsFieldOf entry field ↔ readField field = .ok entry := by
  rw [readField_eq_ok_iff]
  constructor
  · rintro ⟨key, value, text, rfl, hkey, htext, hvalue⟩
    have hname : IsTrimmed entry.key.name.toList :=
      isTrimmed_of_forall fun _ => Key.isBlank_of_mem_name
    have hcolon : ':' ∉ key :=
      hkey.not_mem (Key.not_mem_name (Or.inl rfl)) (by decide)
    exact ⟨value, ⟨key, text, rfl, hcolon, trim_of_isPadded hname hkey,
      trim_of_isPadded hvalue.isTrimmed htext⟩, hvalue⟩
  · rintro ⟨value, ⟨before, behind, hfield, -, hkey, hbehind⟩, hvalue⟩
    exact ⟨before, value, behind, hfield, hkey ▸ isPadded_trim before,
      hbehind ▸ isPadded_trim behind, hvalue⟩

/-! ## Several fields -/

/-- The first field is read by itself, and the others know its key. -/
theorem readFields_cons_eq_ok_iff
    {seen : List Key} {field : Text} {rest : List Text} {entries : List Entry} :
    readFields seen (field :: rest) = .ok entries ↔
      ∃ entry others, entries = entry :: others ∧ readField field = .ok entry ∧
        entry.key ∉ seen ∧ readFields (entry.key :: seen) rest = .ok others := by
  constructor
  · intro h
    unfold readFields at h
    split at h
    · cases h
    next entry hentry =>
      split at h
      · cases h
      next hnew =>
        cases hrest : readFields (entry.key :: seen) rest with
        | error error =>
            rw [hrest] at h
            cases h
        | ok others =>
            rw [hrest] at h
            cases h
            exact ⟨entry, others, rfl, hentry, hnew, hrest⟩
  · rintro ⟨entry, others, rfl, hentry, hnew, hrest⟩
    simp only [readFields, hentry, if_neg hnew, hrest]
    rfl

/-- Fields are read when each of them is, and their keys are different from each
other and from those that have been given. -/
theorem readFields_eq_ok_iff {seen : List Key} {fields : List Text} {entries : List Entry} :
    readFields seen fields = .ok entries ↔
      List.Forall₂ (fun field entry => readField field = .ok entry) fields entries ∧
        (entries.map Entry.key).Nodup ∧ ∀ entry ∈ entries, entry.key ∉ seen := by
  induction fields generalizing seen entries with
  | nil =>
      constructor
      · intro h
        cases h
        simp
      · rintro ⟨hread, -, -⟩
        cases hread
        rfl
  | cons field rest ih =>
      rw [readFields_cons_eq_ok_iff]
      constructor
      · rintro ⟨entry, others, rfl, hentry, hnew, hrest⟩
        obtain ⟨hread, hnodup, hseen⟩ := ih.mp hrest
        have hkey : entry.key ∉ others.map Entry.key := by
          intro hmem
          obtain ⟨other, hother, heq⟩ := List.mem_map.mp hmem
          exact hseen other hother (heq ▸ List.mem_cons_self)
        refine ⟨.cons hentry hread, List.nodup_cons.mpr ⟨hkey, hnodup⟩, ?_⟩
        refine List.forall_mem_cons.mpr ⟨hnew, ?_⟩
        intro other hother hmem
        exact hseen other hother (List.mem_cons_of_mem entry.key hmem)
      · rintro ⟨hread, hnodup, hseen⟩
        cases hread with
        | @cons _ entry _ others hentry hread =>
            obtain ⟨hkey, hnodup⟩ := List.nodup_cons.mp hnodup
            obtain ⟨hnew, hseen⟩ := List.forall_mem_cons.mp hseen
            refine ⟨entry, others, rfl, hentry, hnew, ih.mpr ⟨hread, hnodup, ?_⟩⟩
            intro other hother hmem
            rcases List.mem_cons.mp hmem with heq | hmem
            · exact hkey (heq ▸ List.mem_map.mpr ⟨other, hother, rfl⟩)
            · exact hseen other hother hmem

end CacheCoherence.Dump
