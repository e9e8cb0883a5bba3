import CacheCoherence.Proofs.Dump.LiteralForm

/-!
# Written literals

The literal that is written for a record has the fields in one order, with a blank behind
each colon and each comma, and its numerals have neither a sign nor leading zeros.  It is
one of the literals of the record, so it is read back as the record.
-/

namespace CacheCoherence.Dump

open Text

/-! ## Written entries -/

/-- The value of an entry, as literals write it. -/
def Entry.value : Entry → Text
  | setIndex value => Nat.toDigits 10 value.toNat
  | tag value => Nat.toDigits 10 value.toNat
  | lastUsed value => Nat.toDigits 10 value.toNat
  | state value => [value.letter]

/-- An entry, as literals write it. -/
def Entry.written (entry : Entry) : Text :=
  entry.key.name.toList ++ ':' :: ' ' :: entry.value

theorem Entry.isValue_value (entry : Entry) : entry.IsValue entry.value := by
  cases entry with
  | state value => rfl
  | setIndex value | tag value | lastUsed value =>
      exact ⟨_, Or.inl rfl, isNumeral_toDigits value.toNat⟩

/-- A written entry makes a field, whatever white space stands in front of it. -/
theorem isFieldOf_written {front : Text} (hfront : IsSpace front) (entry : Entry) :
    IsFieldOf entry (front ++ entry.written) := by
  have hkey : IsPadded entry.key.name.toList (front ++ entry.key.name.toList) :=
    ⟨front, [], hfront, isSpace_nil, by simp⟩
  have hvalue : IsPadded entry.value (' ' :: entry.value) :=
    ⟨[' '], [], by decide, isSpace_nil, by simp⟩
  exact ⟨_, _, _, by simp [Entry.written], hkey, hvalue, entry.isValue_value⟩

theorem Entry.comma_not_mem_value (entry : Entry) : ',' ∉ entry.value := by
  cases entry with
  | state value =>
      rw [Entry.value, List.mem_singleton]
      cases value <;> decide
  | setIndex value | tag value | lastUsed value =>
      exact not_mem_toDigits rfl value.toNat

theorem Entry.comma_not_mem_written (entry : Entry) : ',' ∉ entry.written := by
  have hname : ',' ∉ entry.key.name.toList := Key.not_mem_name (Or.inr rfl)
  have hvalue := entry.comma_not_mem_value
  simp [written, hname, hvalue]

/-! ## Literals -/

/-- The fields of a literal, with the blanks behind the commas. -/
def fieldsOf (record : Record) : List Text :=
  [(Entry.setIndex record.setIndex).written, ' ' :: (Entry.tag record.tag).written,
    ' ' :: (Entry.lastUsed record.lastUsed).written, ' ' :: (Entry.state record.state).written]

theorem toList_literal (record : Record) :
    record.literal.toList =
      recordWord.toList ++ '\x7b' :: ([','].intercalate (fieldsOf record) ++ ['\x7d']) := by
  simp [Record.literal, fieldsOf, Entry.written, Entry.key, Entry.value, Key.name,
    List.intercalate]

theorem comma_not_mem_of_mem_fieldsOf
    {record : Record} {field : Text} (hfield : field ∈ fieldsOf record) : ',' ∉ field := by
  simp only [fieldsOf, List.mem_cons, List.not_mem_nil, or_false] at hfield
  rcases hfield with rfl | rfl | rfl | rfl
  · exact Entry.comma_not_mem_written _
  all_goals
    rw [List.mem_cons, not_or]
    exact ⟨by decide, Entry.comma_not_mem_written _⟩

theorem isLiteralOf_literal (record : Record) : IsLiteralOf record record.literal.toList := by
  have hframed : IsFramed ([','].intercalate (fieldsOf record)) record.literal.toList := by
    refine ⟨[], isSpace_nil, ?_⟩
    rw [toList_literal]
    exact .refl _
  have hdivided : IsDivided ([','].intercalate (fieldsOf record)) (fieldsOf record) :=
    ⟨by simp [fieldsOf], fun _ => comma_not_mem_of_mem_fieldsOf, rfl⟩
  have hblank : IsSpace [' '] := by decide
  have hfields : List.Forall₂ IsFieldOf (entriesOf record) (fieldsOf record) :=
    .cons (isFieldOf_written isSpace_nil _)
      (.cons (isFieldOf_written hblank _)
        (.cons (isFieldOf_written hblank _) (.cons (isFieldOf_written hblank _) .nil)))
  exact ⟨_, _, _, hframed, hdivided, hfields, .refl _⟩

theorem trim_literal (record : Record) : trim record.literal.toList = record.literal.toList := by
  have hframe := isTrimmed_frame ('\x7b' :: [','].intercalate (fieldsOf record))
  rw [List.cons_append, ← toList_literal] at hframe
  exact trim_of_isPadded hframe (.refl _)

/-- The literal of a record is read back as the record. -/
theorem readRecord_literal (record : Record) :
    readRecord record.literal.toList = .ok record :=
  (isLiteralOf_literal record).readRecord_eq

end CacheCoherence.Dump
