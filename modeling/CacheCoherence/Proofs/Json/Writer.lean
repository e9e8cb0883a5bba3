import CacheCoherence.Json.Writer
import CacheCoherence.Proofs.Json.Quoted
import CacheCoherence.Proofs.Text.Numeral

/-!
# Documents that are found again

Two JSON values are never written alike.  The first character of a written value tells
which kind of value it is; behind a string, a list or an object nothing can be added
without being seen, and a number ends where no digit follows.  So a value can be taken off
any text that does not go on with a digit, and the parts of a list or an object are taken
off one by one, down to the bracket that closes it.
-/

namespace CacheCoherence.Json

open Text

/-! ## Kinds of values -/

/-- What can be seen of a value before it is read. -/
inductive Kind where
  | null
  | bool
  | number
  | string
  | list
  | object
  deriving DecidableEq

def kind : Json → Kind
  | .null => .null
  | .bool _ => .bool
  | .number _ => .number
  | .string _ => .string
  | .list _ => .list
  | .object _ => .object

/-- The kind of the value that begins with a character. -/
def Kind.ofFirst (c : Char) : Kind :=
  if c = 'n' then null
  else if c = 't' ∨ c = 'f' then bool
  else if c = '"' then string
  else if c = '[' then list
  else if c = '\x7b' then object
  else number

theorem Kind.ofFirst_of_isDigit {c : Char} (hc : c.isDigit = true) : ofFirst c = number := by
  have hne : ∀ d : Char, d.isDigit = false → c ≠ d := by
    rintro d hd rfl
    rw [hc] at hd
    cases hd
  simp [ofFirst, hne 'n' (by decide), hne 't' (by decide), hne 'f' (by decide),
    hne '"' (by decide), hne '[' (by decide), hne '\x7b' (by decide)]

/-! ## Parts between brackets -/

/-- What stands behind the first part between brackets: the other parts, and the end. -/
def behindPart (closing : String) (depth : Nat) : List String → Text
  | [] => '\n' :: ((indent depth).toList ++ closing.toList)
  | part :: rest =>
    ',' :: '\n' :: ((indent (depth + 1)).toList ++ part.toList ++ behindPart closing depth rest)

theorem toList_intercalate_parts
    (closing : String) (depth : Nat) (part : String) (rest : List String) :
    (",\n".intercalate ((part :: rest).map (indent (depth + 1) ++ ·)) ++ "\n" ++ indent depth ++
      closing).toList =
      (indent (depth + 1)).toList ++ part.toList ++ behindPart closing depth rest := by
  induction rest generalizing part with
  | nil => simp [behindPart]
  | cons next rest ih =>
      have hnext := ih next
      have hne : (next :: rest).map (indent (depth + 1) ++ ·) ≠ [] := List.cons_ne_nil _ _
      rw [List.map_cons, String.intercalate_cons_of_ne_nil hne, behindPart]
      generalize ",\n".intercalate ((next :: rest).map (indent (depth + 1) ++ ·)) = joined
        at hnext ⊢
      simp only [String.toList_append, List.append_assoc] at hnext ⊢
      rw [hnext]
      rfl

theorem toList_enclosed_nil (opening closing : String) (depth : Nat) :
    (enclosed opening closing depth []).toList = opening.toList ++ closing.toList := by
  simp [enclosed]

theorem toList_enclosed_cons
    (opening closing : String) (depth : Nat) (part : String) (rest : List String) :
    (enclosed opening closing depth (part :: rest)).toList =
      opening.toList ++ '\n' :: ((indent (depth + 1)).toList ++ part.toList ++
        behindPart closing depth rest) := by
  rw [← toList_intercalate_parts, enclosed, if_neg (List.cons_ne_nil part rest)]
  simp

theorem endsNumeral_behindPart
    (closing : String) (depth : Nat) (parts : List String) (rest : Text) :
    EndsNumeral (behindPart closing depth parts ++ rest) := by
  cases parts with
  | nil => exact endsNumeral_cons (by decide) _
  | cons part parts => exact endsNumeral_cons (by decide) _

/-- An element that is known by what is written of it, whatever follows that is no digit. -/
def Separable {α : Type} (write : α → String) (a : α) : Prop :=
  ∀ (b : α) (rest other : Text), EndsNumeral rest → EndsNumeral other →
    (write a).toList ++ rest = (write b).toList ++ other → a = b ∧ rest = other

section Parts

variable {α : Type} {write : α → String} {closing : String} {depth : Nat}

theorem behindPart_append_inj
    {items : List α} (hitems : ∀ a ∈ items, Separable write a) {others : List α}
    {rest rest' : Text}
    (h : behindPart closing depth (items.map write) ++ rest =
      behindPart closing depth (others.map write) ++ rest') : items = others ∧ rest = rest' := by
  induction items generalizing others with
  | nil =>
      cases others with
      | nil => exact ⟨rfl, List.append_cancel_left h⟩
      | cons other others => cases h
  | cons item items ih =>
      cases others with
      | nil => cases h
      | cons other others =>
          obtain ⟨hitem, hmore⟩ := List.forall_mem_cons.mp hitems
          simp only [List.map_cons, behindPart, List.cons_append, List.append_assoc,
            List.cons.injEq, true_and, List.append_cancel_left_eq] at h
          obtain ⟨hfirst, hbehind⟩ := hitem other _ _
            (endsNumeral_behindPart closing depth _ rest)
            (endsNumeral_behindPart closing depth _ rest') h
          obtain ⟨hothers, hrest⟩ := ih hmore hbehind
          exact ⟨by rw [hfirst, hothers], hrest⟩

theorem enclosed_append_inj
    {opening : String} (hclosing : ∀ rest other : Text, closing.toList ++ rest ≠ '\n' :: other)
    {items : List α} (hitems : ∀ a ∈ items, Separable write a) {others : List α}
    {rest rest' : Text}
    (h : (enclosed opening closing depth (items.map write)).toList ++ rest =
      (enclosed opening closing depth (others.map write)).toList ++ rest') :
    items = others ∧ rest = rest' := by
  cases items with
  | nil =>
      cases others with
      | nil => exact ⟨rfl, List.append_cancel_left h⟩
      | cons other others =>
          rw [List.map_nil, List.map_cons, toList_enclosed_nil, toList_enclosed_cons,
            List.append_assoc, List.append_assoc opening.toList] at h
          exact absurd (List.append_cancel_left h) (hclosing rest _)
  | cons item items =>
      cases others with
      | nil =>
          rw [List.map_nil, List.map_cons, toList_enclosed_nil, toList_enclosed_cons,
            List.append_assoc opening.toList, List.append_assoc opening.toList] at h
          exact absurd (List.append_cancel_left h).symm (hclosing rest' _)
      | cons other others =>
          obtain ⟨hitem, hmore⟩ := List.forall_mem_cons.mp hitems
          simp only [List.map_cons, toList_enclosed_cons, List.append_assoc, List.cons_append,
            List.append_cancel_left_eq, List.cons.injEq, true_and] at h
          obtain ⟨hfirst, hbehind⟩ := hitem other _ _
            (endsNumeral_behindPart closing depth _ rest)
            (endsNumeral_behindPart closing depth _ rest') h
          obtain ⟨hothers, hrest⟩ := behindPart_append_inj hmore hbehind
          exact ⟨by rw [hfirst, hothers], hrest⟩

end Parts

/-- How a member is written that stands at this depth. -/
def writeMember (depth : Nat) (member : String × Json) : String :=
  quoted member.1 ++ ": " ++ indented depth member.2

theorem indentedItems_eq_map (depth : Nat) (items : List Json) :
    indentedItems depth items = items.map (indented depth) := by
  induction items with
  | nil => rw [indentedItems, List.map_nil]
  | cons item items ih => rw [indentedItems, ih, List.map_cons]

theorem indentedMembers_eq_map (depth : Nat) (members : List (String × Json)) :
    indentedMembers depth members = members.map (writeMember depth) := by
  induction members with
  | nil => rw [indentedMembers, List.map_nil]
  | cons member members ih =>
      obtain ⟨name, value⟩ := member
      rw [indentedMembers, ih, List.map_cons, writeMember]

/-! ## Values with any text behind them -/

/-- The first character of a written value tells the kind of the value. -/
theorem exists_first_indented (depth : Nat) (value : Json) :
    ∃ first rest, (indented depth value).toList = first :: rest ∧
      Kind.ofFirst first = value.kind := by
  cases value with
  | null =>
      refine ⟨'n', ['u', 'l', 'l'], ?_, rfl⟩
      rw [indented]
      rfl
  | bool value =>
      cases value with
      | false =>
          refine ⟨'f', ['a', 'l', 's', 'e'], ?_, rfl⟩
          rw [indented]
          rfl
      | true =>
          refine ⟨'t', ['r', 'u', 'e'], ?_, rfl⟩
          rw [indented]
          rfl
  | number value =>
      obtain ⟨first, rest, hdigits⟩ :=
        List.exists_cons_of_ne_nil (Nat.toDigits_ne_nil (b := 10) (n := value))
      have hmem : first ∈ Nat.toDigits 10 value := by
        rw [hdigits]
        exact List.mem_cons_self
      refine ⟨first, rest, ?_, Kind.ofFirst_of_isDigit (isDigit_of_mem_toDigits hmem)⟩
      rw [indented, Nat.toList_repr, hdigits]
  | string value =>
      refine ⟨'"', value.toList.flatMap escaped ++ ['"'], ?_, rfl⟩
      rw [indented, ← toList_quoted_append, List.append_nil]
  | list items =>
      cases items with
      | nil =>
          refine ⟨'[', [']'], ?_, rfl⟩
          rw [indented, indentedItems, toList_enclosed_nil]
          rfl
      | cons item items =>
          rw [indented, indentedItems, toList_enclosed_cons]
          exact ⟨'[', _, rfl, rfl⟩
  | object members =>
      cases members with
      | nil =>
          refine ⟨'\x7b', ['\x7d'], ?_, rfl⟩
          rw [indented, indentedMembers, toList_enclosed_nil]
          rfl
      | cons member members =>
          rw [indented, indentedMembers, toList_enclosed_cons]
          exact ⟨'\x7b', _, rfl, rfl⟩

theorem kind_eq_of_indented_append
    {depth : Nat} {value value' : Json} {rest rest' : Text}
    (h : (indented depth value).toList ++ rest = (indented depth value').toList ++ rest') :
    value.kind = value'.kind := by
  obtain ⟨first, tail, hvalue, hfirst⟩ := exists_first_indented depth value
  obtain ⟨first', tail', hvalue', hfirst'⟩ := exists_first_indented depth value'
  rw [hvalue, hvalue'] at h
  rw [← hfirst, ← hfirst', List.head_eq_of_cons_eq h]

theorem separable_writeMember
    {depth : Nat} {name : String} {value : Json} (hvalue : Separable (indented depth) value) :
    Separable (writeMember depth) (name, value) := by
  rintro ⟨name', value'⟩ rest rest' hrest hrest' h
  simp only [writeMember, String.toList_append, List.append_assoc] at h
  obtain ⟨hname, hbehind⟩ := quoted_append_inj h
  obtain ⟨hsame, hrests⟩ :=
    hvalue value' rest rest' hrest hrest' (List.append_cancel_left hbehind)
  exact ⟨by rw [hname, hsame], hrests⟩

theorem sizeOf_lt_of_mem_members
    {member : String × Json} {members : List (String × Json)} (hmember : member ∈ members) :
    sizeOf member.2 < sizeOf members := by
  obtain ⟨name, value⟩ := member
  have hsize := List.sizeOf_lt_of_mem hmember
  rw [Prod.mk.sizeOf_spec] at hsize
  exact Nat.lt_of_le_of_lt (Nat.le_add_left _ _) hsize

/-- What every value has as soon as all values have it that it is made of. -/
theorem induct {motive : Json → Prop} (null : motive .null) (bool : ∀ value, motive (.bool value))
    (number : ∀ value, motive (.number value)) (string : ∀ value, motive (.string value))
    (list : ∀ items, (∀ item ∈ items, motive item) → motive (.list items))
    (object : ∀ members, (∀ member ∈ members, motive member.2) → motive (.object members)) :
    ∀ value, motive value
  | .null => null
  | .bool value => bool value
  | .number value => number value
  | .string value => string value
  | .list items =>
    list items fun item hitem =>
      have := List.sizeOf_lt_of_mem hitem
      induct null bool number string list object item
  | .object members =>
    object members fun member hmember =>
      have := sizeOf_lt_of_mem_members hmember
      induct null bool number string list object member.2
termination_by value => sizeOf value

/-- A written value can be taken off every text that does not go on with a digit. -/
theorem separable_indented (depth : Nat) (value : Json) : Separable (indented depth) value := by
  induction value using induct generalizing depth with
  | null =>
      intro value' rest rest' _ _ h
      cases value' with
      | null => exact ⟨rfl, List.append_cancel_left h⟩
      | _ => cases kind_eq_of_indented_append h
  | bool value =>
      intro value' rest rest' _ _ h
      cases value' with
      | bool value' =>
          rw [indented, indented] at h
          cases value with
          | false =>
              cases value' with
              | false => exact ⟨rfl, List.append_cancel_left h⟩
              | true => cases h
          | true =>
              cases value' with
              | false => cases h
              | true => exact ⟨rfl, List.append_cancel_left h⟩
      | _ => cases kind_eq_of_indented_append h
  | number value =>
      intro value' rest rest' hrest hrest' h
      cases value' with
      | number value' =>
          rw [indented, indented, Nat.toList_repr, Nat.toList_repr] at h
          obtain ⟨hvalue, hbehind⟩ := toDigits_append_inj hrest hrest' h
          exact ⟨congrArg Json.number hvalue, hbehind⟩
      | _ => cases kind_eq_of_indented_append h
  | string value =>
      intro value' rest rest' _ _ h
      cases value' with
      | string value' =>
          rw [indented, indented] at h
          obtain ⟨hvalue, hbehind⟩ := quoted_append_inj h
          exact ⟨congrArg Json.string hvalue, hbehind⟩
      | _ => cases kind_eq_of_indented_append h
  | list items ih =>
      intro value' rest rest' _ _ h
      cases value' with
      | list items' =>
          rw [indented, indented, indentedItems_eq_map, indentedItems_eq_map] at h
          have hitems : ∀ item ∈ items, Separable (indented (depth + 1)) item :=
            fun item hitem => ih item hitem (depth + 1)
          obtain ⟨hvalue, hbehind⟩ := enclosed_append_inj (by simp) hitems h
          exact ⟨congrArg Json.list hvalue, hbehind⟩
      | _ => cases kind_eq_of_indented_append h
  | object members ih =>
      intro value' rest rest' _ _ h
      cases value' with
      | object members' =>
          rw [indented, indented, indentedMembers_eq_map, indentedMembers_eq_map] at h
          have hmembers : ∀ member ∈ members, Separable (writeMember (depth + 1)) member :=
            fun member hmember => separable_writeMember (ih member hmember (depth + 1))
          obtain ⟨hvalue, hbehind⟩ := enclosed_append_inj (by simp) hmembers h
          exact ⟨congrArg Json.object hvalue, hbehind⟩
      | _ => cases kind_eq_of_indented_append h

/-- Different values are written as different documents. -/
theorem pretty_injective : Function.Injective pretty := by
  intro value value' h
  have hsame : (indented 0 value).toList ++ [] = (indented 0 value').toList ++ [] :=
    congrArg (fun text => text.toList ++ []) h
  exact (separable_indented 0 value value' [] [] endsNumeral_nil endsNumeral_nil hsame).1

end CacheCoherence.Json
