import CacheCoherence.Proofs.Text.Trim
import Mathlib.Data.List.DropRight

/-!
# White space around a text

What trimming leaves is described without a scan from the ends: it has no white space
at its own ends, and the text is made of it by putting white space around it.  There is
one text of which both are true, so that white space can be added to a text or taken
away from it without a change to what trimming leaves.
-/

namespace CacheCoherence.Text

/-- White space only, or nothing at all. -/
def IsSpace (text : Text) : Prop :=
  ∀ c ∈ text, isBlank c = true

/-- The text consists of `inner` and white space around it. -/
def IsPadded (inner text : Text) : Prop :=
  ∃ front back, IsSpace front ∧ IsSpace back ∧ text = front ++ inner ++ back

/-- A text that neither begins nor ends with white space. -/
structure IsTrimmed (text : Text) : Prop where
  head : ∀ c, text.head? = some c → isBlank c = false
  last : ∀ c, text.getLast? = some c → isBlank c = false

theorem isSpace_iff {text : Text} : IsSpace text ↔ text.all isBlank = true :=
  List.all_eq_true.symm

instance : DecidablePred IsSpace :=
  fun _ => decidable_of_iff _ isSpace_iff.symm

theorem isSpace_nil : IsSpace [] := nofun

theorem IsSpace.append {front back : Text} (hfront : IsSpace front) (hback : IsSpace back) :
    IsSpace (front ++ back) := by
  intro c hc
  rw [List.mem_append] at hc
  exact hc.elim (hfront c) (hback c)

theorem IsPadded.refl (text : Text) : IsPadded text text :=
  ⟨[], [], isSpace_nil, isSpace_nil, (List.append_nil text).symm⟩

theorem IsPadded.trans {inner middle text : Text} (hinner : IsPadded inner middle)
    (hmiddle : IsPadded middle text) : IsPadded inner text := by
  obtain ⟨front, back, hfront, hback, rfl⟩ := hinner
  obtain ⟨before, behind, hbefore, hbehind, rfl⟩ := hmiddle
  exact ⟨before ++ front, back ++ behind, hbefore.append hfront, hback.append hbehind, by simp⟩

theorem IsSpace.not_mem {text : Text} (htext : IsSpace text) {c : Char}
    (hc : isBlank c = false) : c ∉ text := by
  intro hmem
  rw [htext c hmem] at hc
  cases hc

theorem IsPadded.not_mem {inner text : Text} (htext : IsPadded inner text) {c : Char}
    (hinner : c ∉ inner) (hc : isBlank c = false) : c ∉ text := by
  obtain ⟨front, back, hfront, hback, rfl⟩ := htext
  simp [hinner, hfront.not_mem hc, hback.not_mem hc]

theorem isTrimmed_of_forall {text : Text} (htext : ∀ c ∈ text, isBlank c = false) :
    IsTrimmed text :=
  ⟨fun c hc => htext c (List.mem_of_mem_head? hc), fun c hc => htext c (List.mem_of_getLast? hc)⟩

theorem isTrimmed_of_ends (first : Char) (middle : Text) (last : Char)
    (hfirst : isBlank first = false) (hlast : isBlank last = false) :
    IsTrimmed (first :: middle ++ [last]) := by
  constructor
  · rintro _ ⟨⟩
    exact hfirst
  · intro c hc
    rw [List.getLast?_concat] at hc
    cases hc
    exact hlast

/-! ## Trimming -/

theorem exists_trimStart (text : Text) :
    ∃ front, IsSpace front ∧ text = front ++ trimStart text :=
  ⟨text.takeWhile isBlank, fun _ hc => List.mem_takeWhile_imp hc,
    List.takeWhile_append_dropWhile.symm⟩

theorem trimEnd_eq_rdropWhile (text : Text) : trimEnd text = text.rdropWhile isBlank := rfl

theorem exists_trimEnd (text : Text) : ∃ back, IsSpace back ∧ text = trimEnd text ++ back := by
  refine ⟨text.rtakeWhile isBlank, fun _ hc => List.mem_rtakeWhile_imp hc, ?_⟩
  rw [trimEnd_eq_rdropWhile, List.rdropWhile_append_rtakeWhile]

theorem isPadded_trim (text : Text) : IsPadded (trim text) text := by
  obtain ⟨front, hfront, hstart⟩ := exists_trimStart text
  obtain ⟨back, hback, hend⟩ := exists_trimEnd (trimStart text)
  refine ⟨front, back, hfront, hback, ?_⟩
  rw [List.append_assoc, trim, ← hend, ← hstart]

theorem isTrimmed_trim (text : Text) : IsTrimmed (trim text) := by
  constructor
  · intro c hc
    obtain ⟨back, -, hend⟩ := exists_trimEnd (trimStart text)
    have hhead : (trimStart text).head? = some c := by
      rw [hend, List.head?_append, ← trim, hc, Option.some_or]
    have hnot := List.head?_dropWhile_not isBlank text
    rw [← trimStart, hhead] at hnot
    exact hnot
  · intro c hc
    have hne : trim text ≠ [] := by
      rintro hnil
      rw [hnil] at hc
      cases hc
    rw [List.getLast?_eq_some_getLast hne, Option.some.injEq] at hc
    exact Bool.eq_false_iff.mpr (hc ▸ List.rdropWhile_last_not isBlank (trimStart text) hne)

theorem trim_of_isPadded {inner text : Text} (hinner : IsTrimmed inner)
    (htext : IsPadded inner text) : trim text = inner := by
  obtain ⟨front, back, hfront, hback, rfl⟩ := htext
  cases inner with
  | nil =>
      have hall : trimStart (front ++ [] ++ back) = [] := by
        rw [List.append_nil]
        exact List.dropWhile_eq_nil_iff.mpr (hfront.append hback)
      rw [trim, hall]
      rfl
  | cons c rest =>
      have hself : trimEnd (c :: rest) = c :: rest := by
        rw [trimEnd_eq_rdropWhile, List.rdropWhile_eq_self_iff]
        intro hne
        rw [hinner.last _ (List.getLast?_eq_some_getLast hne)]
        exact Bool.false_ne_true
      rw [trim, List.append_assoc, trimStart_append hfront, List.cons_append,
        trimStart_cons (hinner.head c rfl), ← List.cons_append, trimEnd_append hback, hself]

theorem trim_trim (text : Text) : trim (trim text) = trim text :=
  trim_of_isPadded (isTrimmed_trim text) (.refl _)

/-- White space around a text does not matter to what trimming leaves. -/
theorem IsPadded.trim_eq {inner text : Text} (h : IsPadded inner text) :
    trim text = trim inner :=
  trim_of_isPadded (isTrimmed_trim inner) ((isPadded_trim inner).trans h)

end CacheCoherence.Text
