import Mathlib.Data.List.Basic
import Mathlib.Data.List.Induction

/-!
# Elements at their first occurrences

A list without its repetitions, each element at its first occurrence, grows at the end
only.  So what happens to the elements of a list can be done before the repetitions are
dropped as well as after it, and the elements that are left stand in the order of their
first occurrences.
-/

namespace CacheCoherence

variable {α : Type} [DecidableEq α]

/-- One more element stands at the end, unless it has been there before. -/
theorem eraseDups_concat (l : List α) (a : α) :
    (l ++ [a]).eraseDups = if a ∈ l then l.eraseDups else l.eraseDups ++ [a] := by
  rw [List.eraseDups_append, List.cons_removeAll, List.nil_removeAll]
  by_cases ha : a ∈ l
  · rw [if_pos ha, List.contains_iff_mem.mpr ha]
    exact List.append_nil _
  · have hnew : l.contains a = false :=
      Bool.eq_false_iff.mpr fun h => ha (List.contains_iff_mem.mp h)
    rw [if_neg ha, hnew]
    rfl

theorem eraseDups_filter (p : α → Bool) (l : List α) :
    (l.filter p).eraseDups = l.eraseDups.filter p := by
  induction l using List.reverseRecOn with
  | nil => rfl
  | append_singleton l a ih =>
      rw [List.filter_append, eraseDups_concat]
      cases hp : p a with
      | false =>
          have hdrop : [a].filter p = [] := List.filter_cons_of_neg (by simp [hp])
          rw [hdrop, List.append_nil, ih]
          split
          · rfl
          · rw [List.filter_append, hdrop, List.append_nil]
      | true =>
          have hkeep : [a].filter p = [a] := List.filter_cons_of_pos hp
          have hmem : a ∈ l.filter p ↔ a ∈ l := by simp [hp]
          rw [hkeep, eraseDups_concat, ih]
          by_cases ha : a ∈ l
          · rw [if_pos (hmem.mpr ha), if_pos ha]
          · rw [if_neg (mt hmem.mp ha), if_neg ha, List.filter_append, hkeep]

theorem eraseDups_map {β : Type} [DecidableEq β] {f : α → β} (hf : Function.Injective f)
    (l : List α) : (l.map f).eraseDups = l.eraseDups.map f := by
  induction l using List.reverseRecOn with
  | nil => rfl
  | append_singleton l a ih =>
      have hmem : f a ∈ l.map f ↔ a ∈ l := List.mem_map_of_injective hf
      rw [List.map_append, List.map_singleton, eraseDups_concat, eraseDups_concat, ih]
      by_cases ha : a ∈ l
      · rw [if_pos (hmem.mpr ha), if_pos ha]
      · rw [if_neg (mt hmem.mp ha), if_neg ha, List.map_append, List.map_singleton]

/-- Where no element is repeated, each one stands at its first occurrence. -/
theorem pairwise_idxOf {l : List α} (hnodup : l.Nodup) :
    l.Pairwise fun a b => l.idxOf a < l.idxOf b := by
  rw [List.pairwise_iff_getElem]
  intro i j hi hj hij
  rwa [hnodup.idxOf_getElem i hi, hnodup.idxOf_getElem j hj]

/-- The images of some elements, without repetitions, stand in the order in which elements
with these images come first. -/
theorem pairwise_findIdx_eraseDups {β : Type} (p : β → Bool) (f : β → α) (l : List β) :
    ((l.filter p).map f).eraseDups.Pairwise fun a b =>
      (l.findIdx fun x => p x && f x = a) < l.findIdx fun x => p x && f x = b := by
  induction l using List.reverseRecOn with
  | nil => exact List.Pairwise.nil
  | append_singleton l x ih =>
      have hfound : ∀ a ∈ ((l.filter p).map f).eraseDups,
          (l.findIdx fun y => p y && f y = a) < l.length := by
        intro a ha
        obtain ⟨y, hy, rfl⟩ := List.mem_map.mp (List.mem_eraseDups.mp ha)
        obtain ⟨hmem, hp⟩ := List.mem_filter.mp hy
        exact List.findIdx_lt_length_of_exists ⟨y, hmem, by simp [hp]⟩
      -- What has been found in `l` keeps its first place in the longer list.
      have hkept : ((l.filter p).map f).eraseDups.Pairwise fun a b =>
          ((l ++ [x]).findIdx fun y => p y && f y = a) <
            (l ++ [x]).findIdx fun y => p y && f y = b := by
        refine ih.imp_of_mem fun ha hb hlt => ?_
        rwa [List.findIdx_append, if_pos (hfound _ ha), List.findIdx_append, if_pos (hfound _ hb)]
      rw [List.filter_append, List.map_append]
      cases hp : p x with
      | false =>
          rw [List.filter_cons_of_neg (by simp [hp]), List.filter_nil, List.map_nil,
            List.append_nil]
          exact hkept
      | true =>
          rw [List.filter_cons_of_pos hp, List.filter_nil, List.map_singleton, eraseDups_concat]
          split
          next => exact hkept
          next hnew =>
            have hnone : (l.findIdx fun y => p y && f y = f x) = l.length := by
              rw [List.findIdx_eq_length]
              intro y hy
              by_contra hsame
              rw [Bool.not_eq_false, Bool.and_eq_true, decide_eq_true_iff] at hsame
              exact hnew (List.mem_map.mpr ⟨y, List.mem_filter.mpr ⟨hy, hsame.1⟩, hsame.2⟩)
            refine List.pairwise_append.mpr ⟨hkept, List.pairwise_singleton _ _, ?_⟩
            intro a ha b hb
            rw [List.mem_singleton.mp hb, List.findIdx_append, if_pos (hfound a ha),
              List.findIdx_append, hnone, if_neg (Nat.lt_irrefl _)]
            exact Nat.lt_of_lt_of_le (hfound a ha) (Nat.le_add_left _ _)

end CacheCoherence
