import CacheCoherence.Text.Blank

/-!
# Places in a text

A place in a text is counted in bytes of UTF-8, of which a character takes one to
four.  A text can be cut only between two characters: the cut at a place within a
character does not exist.
-/

namespace CacheCoherence.Text

def byteSize : Text → Nat
  | [] => 0
  | c :: rest => c.utf8Size + byteSize rest

/-- The parts of a text before and behind a place. -/
def cutAt? : Text → (place : Nat) → Option (Text × Text)
  | [], place => if place = 0 then some ([], []) else none
  | c :: rest, place =>
    if place = 0 then some ([], c :: rest)
    else if c.utf8Size ≤ place then
      (cutAt? rest (place - c.utf8Size)).map fun parts => (c :: parts.1, parts.2)
    else none

theorem byteSize_append (front rest : Text) :
    byteSize (front ++ rest) = byteSize front + byteSize rest := by
  induction front with
  | nil => exact (Nat.zero_add _).symm
  | cons c front ih =>
    change c.utf8Size + byteSize (front ++ rest) = c.utf8Size + byteSize front + byteSize rest
    rw [ih, Nat.add_assoc]

theorem byteSize_eq_zero_iff {text : Text} : byteSize text = 0 ↔ text = [] := by
  cases text with
  | nil => simp [byteSize]
  | cons c rest =>
    have hc := c.utf8Size_pos
    simp only [byteSize, reduceCtorEq, iff_false]
    omega

theorem cutAt?_eq_some_iff {text front rest : Text} {place : Nat} :
    cutAt? text place = some (front, rest) ↔
      text = front ++ rest ∧ byteSize front = place := by
  induction text generalizing front place with
  | nil =>
    have hnil : cutAt? [] place = if place = 0 then some ([], []) else none := rfl
    rw [hnil]
    by_cases hplace : place = 0
    · cases front <;> simp [hplace, byteSize]
    · cases front <;> simp [hplace, byteSize, eq_comm (a := 0)]
  | cons c text ih =>
    have hc := c.utf8Size_pos
    cases front with
    | nil =>
      unfold cutAt?
      by_cases hplace : place = 0
      · simp [hplace, byteSize]
      · simp [hplace, byteSize, eq_comm (a := 0)]
    | cons d front =>
      unfold cutAt?
      by_cases hplace : place = 0
      · have hd := d.utf8Size_pos
        simp only [hplace, byteSize]
        simp
        omega
      · by_cases hle : c.utf8Size ≤ place
        · simp only [hplace, hle, if_true, if_false, Option.map_eq_some_iff, Prod.exists,
            Prod.mk.injEq, List.cons.injEq, List.cons_append, byteSize]
          constructor
          · rintro ⟨f, r, hcut, ⟨rfl, rfl⟩, rfl⟩
            obtain ⟨rfl, hsize⟩ := ih.1 hcut
            exact ⟨⟨rfl, rfl⟩, by omega⟩
          · rintro ⟨⟨rfl, rfl⟩, hsize⟩
            exact ⟨front, rest, ih.2 ⟨rfl, by omega⟩, ⟨rfl, rfl⟩, rfl⟩
        · simp only [hplace, hle, if_false, List.cons_append, List.cons.injEq, byteSize]
          refine ⟨nofun, ?_⟩
          rintro ⟨⟨rfl, -⟩, hsize⟩
          omega

example : cutAt? ['é', 'a'] 2 = some (['é'], ['a']) := by decide

example : cutAt? ['é', 'a'] 1 = none := by decide

end CacheCoherence.Text
