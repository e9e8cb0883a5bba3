import CacheCoherence.Text.Blank

/-!
# Words and separators in a text

Ways of taking a text apart: behind the first occurrence of a word, and around
the first occurrence of a separator.
-/

namespace CacheCoherence.Text

/-- What follows the leftmost occurrence of `word`. -/
def behind? (word text : Text) : Option Text :=
  match word.isPrefixOf? text with
  | some rest => some rest
  | none =>
    match text with
    | [] => none
    | _ :: tail => behind? word tail

/-- Whether `word` occurs anywhere in the text. -/
def contains (text word : Text) : Bool :=
  (behind? word text).isSome

/-- The parts before and behind the first `separator`. -/
def cut? (separator : Char) (text : Text) : Option (Text × Text) :=
  match text.dropWhile (· != separator) with
  | [] => none
  | _ :: rest => some (text.takeWhile (· != separator), rest)

theorem isPrefixOf?_eq_some_iff {word text rest : Text} :
    word.isPrefixOf? text = some rest ↔ text = word ++ rest := by
  induction word generalizing text with
  | nil => exact Option.some_inj
  | cons c word ih =>
    cases text with
    | nil =>
      have hnil : (c :: word).isPrefixOf? ([] : Text) = none := rfl
      simp [hnil]
    | cons d text =>
      have hcons : (c :: word).isPrefixOf? (d :: text) =
          if c == d then word.isPrefixOf? text else none := rfl
      rw [hcons, List.cons_append, List.cons.injEq]
      by_cases h : c = d
      · simp [h, ih]
      · simp [h, eq_comm (a := d)]

theorem isSome_isPrefixOf?_iff {word text : Text} :
    (word.isPrefixOf? text).isSome = true ↔ word <+: text := by
  rw [Option.isSome_iff_exists]
  exact exists_congr fun rest => isPrefixOf?_eq_some_iff.trans eq_comm

theorem contains_iff {text word : Text} :
    contains text word = true ↔ word <:+: text := by
  unfold contains
  induction text with
  | nil =>
    rw [List.infix_nil, ← List.prefix_nil, ← isSome_isPrefixOf?_iff, behind?.eq_def]
    split <;> simp [*]
  | cons c text ih =>
    rw [List.infix_cons_iff, ← ih, ← isSome_isPrefixOf?_iff, behind?.eq_def]
    split <;> simp [*]

theorem cut?_eq_some_iff {separator : Char} {text before rest : Text} :
    cut? separator text = some (before, rest) ↔
      text = before ++ separator :: rest ∧ separator ∉ before := by
  constructor
  · intro h
    unfold cut? at h
    split at h
    · cases h
    · next c tail hdrop =>
      obtain ⟨rfl, rfl⟩ := Prod.mk.inj (Option.some.inj h)
      have hc : c = separator := by
        have hhead := List.head?_dropWhile_not (· != separator) text
        simpa [hdrop] using hhead
      have happend : text.takeWhile (· != separator) ++ text.dropWhile (· != separator) = text :=
        List.takeWhile_append_dropWhile
      have hall : (text.takeWhile (· != separator)).all (· != separator) = true :=
        List.all_takeWhile
      rw [hdrop, hc] at happend
      exact ⟨happend.symm, fun hmem => by simpa using List.all_eq_true.1 hall _ hmem⟩
  · rintro ⟨rfl, hbefore⟩
    have hall : ∀ c ∈ before, (c != separator) = true := fun c hc =>
      bne_iff_ne.2 fun heq => hbefore (heq ▸ hc)
    simp [cut?, List.dropWhile_append_of_pos hall, List.takeWhile_append_of_pos hall]

theorem cut?_eq_none_iff {separator : Char} {text : Text} :
    cut? separator text = none ↔ separator ∉ text := by
  constructor
  · intro h hmem
    obtain ⟨before, rest, rfl, hbefore⟩ := List.eq_append_cons_of_mem hmem
    rw [cut?_eq_some_iff.2 ⟨rfl, hbefore⟩] at h
    cases h
  · intro h
    cases hcut : cut? separator text with
    | none => rfl
    | some parts =>
      obtain ⟨rfl, -⟩ := cut?_eq_some_iff.1 hcut
      simp at h

example : behind? ['a', 'b'] ['a', 'a', 'b', 'c'] = some ['c'] := by decide

example : cut? ':' ['k', ':', ':'] = some (['k'], [':']) := by decide

end CacheCoherence.Text
