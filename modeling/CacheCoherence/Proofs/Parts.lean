import Mathlib.Data.List.Basic
import Mathlib.Data.List.Nodup

/-!
# Lists that are put together from parts

When the parts of a list can be told from each other and from what stands behind them,
the list tells its parts.  A list that is collected from sources is filtered by filtering
the sources, when its elements tell where they come from.  A list that is in blocks by a
key is put together again from what has one key each.
-/

namespace CacheCoherence

/-- Parts in a row are found again, one by one, up to an element that begins no part. -/
theorem flatMap_append_cons_inj
    {α β : Type} {part : α → List β} {stop : β}
    (hpart : ∀ {a b rest other}, part a ++ rest = part b ++ other → a = b ∧ rest = other)
    (hstop : ∀ a rest other, part a ++ rest ≠ stop :: other) {l m : List α} {rest other : List β}
    (h : l.flatMap part ++ stop :: rest = m.flatMap part ++ stop :: other) :
    l = m ∧ rest = other := by
  induction l generalizing m with
  | nil =>
      cases m with
      | nil => exact ⟨rfl, List.tail_eq_of_cons_eq h⟩
      | cons b m =>
          rw [List.flatMap_cons, List.append_assoc] at h
          exact absurd h.symm (hstop b _ _)
  | cons a l ih =>
      cases m with
      | nil =>
          rw [List.flatMap_cons, List.append_assoc] at h
          exact absurd h (hstop a _ _)
      | cons b m =>
          rw [List.flatMap_cons, List.flatMap_cons, List.append_assoc, List.append_assoc] at h
          obtain ⟨rfl, hbehind⟩ := hpart h
          obtain ⟨rfl, hrest⟩ := ih hbehind
          exact ⟨rfl, hrest⟩

/-- Leaving out sources leaves out what is collected from them, when the sources that stay
give as much as is kept and the others have nothing of it. -/
theorem flatMap_filter_eq_filter_flatMap
    {α β : Type} {sources : List α} {part kept : α → List β} {p : α → Bool} {q : β → Bool}
    (hkept : ∀ a ∈ sources, p a = true → kept a = (part a).filter q)
    (hnone : ∀ a ∈ sources, p a = false → (part a).filter q = []) :
    (sources.filter p).flatMap kept = (sources.flatMap part).filter q := by
  induction sources with
  | nil => rfl
  | cons a rest ih =>
      obtain ⟨hkeptFirst, hkeptRest⟩ := List.forall_mem_cons.mp hkept
      obtain ⟨hnoneFirst, hnoneRest⟩ := List.forall_mem_cons.mp hnone
      rw [List.flatMap_cons, List.filter_append, ← ih hkeptRest hnoneRest]
      cases hp : p a with
      | false => rw [hnoneFirst hp, List.filter_cons_of_neg (by simp [hp]), List.nil_append]
      | true => rw [← hkeptFirst hp, List.filter_cons_of_pos hp, List.flatMap_cons]

/-- Filtering what was collected part by part is filtering the sources, when all
elements of a part agree with their source. -/
theorem filter_flatMap_of_source
    {α β : Type} {sources : List α} {part : α → List β} {p : β → Bool} {q : α → Bool}
    (hsource : ∀ a ∈ sources, ∀ b ∈ part a, p b = q a) :
    (sources.flatMap part).filter p = (sources.filter q).flatMap part := by
  refine (flatMap_filter_eq_filter_flatMap (fun a ha hq => ?_) fun a ha hq => ?_).symm
  · refine (List.filter_eq_self.mpr fun b hb => ?_).symm
    rw [hsource a ha b hb, hq]
  · refine List.filter_eq_nil_iff.mpr fun b hb => ?_
    rw [hsource a ha b hb, hq]
    exact Bool.false_ne_true

/-- What is collected from related sources is the same up to its order when the parts are. -/
theorem perm_flatMap_of_forall₂
    {α β γ : Type} {R : α → β → Prop} {part : α → List γ} {other : β → List γ}
    (hparts : ∀ a b, R a b → (part a).Perm (other b)) {l : List α} {m : List β}
    (h : List.Forall₂ R l m) : (l.flatMap part).Perm (m.flatMap other) := by
  induction h with
  | nil => exact List.Perm.refl []
  | cons hfirst _ ih => exact (hparts _ _ hfirst).append ih

/-- An element is the only one with its key when no key is repeated. -/
theorem filter_key_eq_singleton
    {α κ : Type} [DecidableEq κ] {key : α → κ} {l : List α} (hnodup : (l.map key).Nodup)
    {a : α} (ha : a ∈ l) : (l.filter fun b => key b = key a) = [a] := by
  obtain ⟨front, back, rfl⟩ := List.append_of_mem ha
  rw [List.map_append, List.map_cons, List.nodup_middle, List.nodup_cons, List.mem_append,
    not_or] at hnodup
  have hfront : (front.filter fun b => key b = key a) = [] := by
    refine List.filter_eq_nil_iff.mpr fun b hb hkey => hnodup.1.1 ?_
    exact List.mem_map.mpr ⟨b, hb, of_decide_eq_true hkey⟩
  have hback : (back.filter fun b => key b = key a) = [] := by
    refine List.filter_eq_nil_iff.mpr fun b hb hkey => hnodup.1.2 ?_
    exact List.mem_map.mpr ⟨b, hb, of_decide_eq_true hkey⟩
  rw [List.filter_append, hfront, List.nil_append, List.filter_cons, if_pos (decide_eq_true rfl),
    hback]

theorem flatMap_filter_key
    {α κ : Type} [DecidableEq κ] {key : α → κ} {n : Nat} {keys : List κ} (hkeys : keys.Nodup)
    {l : List α} (hl : l.map key = keys.flatMap (List.replicate n)) :
    (keys.flatMap fun k => l.filter fun a => key a = k) = l := by
  induction keys generalizing l with
  | nil => exact (List.map_eq_nil_iff.mp hl).symm
  | cons k keys ih =>
      rw [List.flatMap_cons] at hl
      obtain ⟨hk, hkeys⟩ := List.nodup_cons.mp hkeys
      obtain ⟨front, back, rfl, hfront, hback⟩ := List.map_eq_append_iff.mp hl
      have hin : ∀ a ∈ front, key a = k := by
        intro a ha
        exact List.eq_of_mem_replicate (hfront ▸ List.mem_map_of_mem ha)
      have hout : ∀ a ∈ back, key a ∈ keys := by
        intro a ha
        have hmem : key a ∈ keys.flatMap (List.replicate n) := hback ▸ List.mem_map_of_mem ha
        obtain ⟨other, hother, hreplicate⟩ := List.mem_flatMap.mp hmem
        exact List.eq_of_mem_replicate hreplicate ▸ hother
      have hfirst : ((front ++ back).filter fun a => key a = k) = front := by
        have hkeep : (front.filter fun a => key a = k) = front :=
          List.filter_eq_self.mpr fun a ha => decide_eq_true (hin a ha)
        have hdrop : (back.filter fun a => key a = k) = [] :=
          List.filter_eq_nil_iff.mpr fun a ha hkey => hk (of_decide_eq_true hkey ▸ hout a ha)
        rw [List.filter_append, hkeep, hdrop, List.append_nil]
      have hothers : (keys.flatMap fun other => (front ++ back).filter fun a => key a = other) =
          keys.flatMap fun other => back.filter fun a => key a = other := by
        refine List.flatMap_congr fun other hother => ?_
        have hdrop : (front.filter fun a => key a = other) = [] := by
          refine List.filter_eq_nil_iff.mpr fun a ha hkey => hk ?_
          rw [← hin a ha, of_decide_eq_true hkey]
          exact hother
        rw [List.filter_append, hdrop, List.nil_append]
      rw [List.flatMap_cons, hfirst, hothers, ih hkeys hback]

/-- What can be told from the images of two lists is the same for both when the images
are. -/
theorem map_eq_map_of_forall
    {α β γ δ : Type} {f : α → γ} {g : β → γ} {f' : α → δ} {g' : β → δ} {l : List α} {m : List β}
    (hfg : ∀ a ∈ l, ∀ b ∈ m, f a = g b → f' a = g' b) (h : l.map f = m.map g) :
    l.map f' = m.map g' := by
  induction l generalizing m with
  | nil =>
      rw [List.map_eq_nil_iff.mp h.symm]
      rfl
  | cons a l ih =>
      cases m with
      | nil => cases h
      | cons b m =>
          obtain ⟨hfirst, hrest⟩ := List.cons.inj h
          have hmore : l.map f' = m.map g' := by
            refine ih (fun c hc d hd => ?_) hrest
            exact hfg c (List.mem_cons_of_mem a hc) d (List.mem_cons_of_mem b hd)
          rw [List.map_cons, List.map_cons, hmore,
            hfg a List.mem_cons_self b List.mem_cons_self hfirst]

end CacheCoherence
