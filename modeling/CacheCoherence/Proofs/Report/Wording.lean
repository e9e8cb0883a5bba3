import CacheCoherence.Proofs.Parts
import CacheCoherence.Proofs.Text.Numeral
import CacheCoherence.Report.Plain

/-!
# What a line of the text report tells

The lines on the statistics of a cache tell all of them, and where the next lines begin.
The line on a violation tells everything but the invariant: a duplicate is told from a
conflict by the first word, and every number ends where a word follows that does not
begin with a digit.
-/

namespace CacheCoherence

open Text

/-! ## Names -/

theorem LineState.letter_injective : Function.Injective letter := by
  intro state other h
  cases state <;> cases other <;> first | rfl | cases h

theorem Invariant.testName_injective : Function.Injective testName := by
  intro invariant other h
  cases invariant <;> cases other <;> simp_all [testName, name]

theorem CacheId.text_injective : Function.Injective text := fun _ _ h =>
  eq_of_toNat_eq (repr_injective h)

/-! ## Violations -/

namespace Violation

section Text

variable (invariant : Invariant) (cache : CacheId) (tag setIndex : UInt64) (state : LineState)

theorem toList_text_duplicate (occurrences : Nat) :
    (text ⟨invariant, cache, ⟨tag, setIndex⟩, state, .duplicate occurrences⟩).toList =
      "Duplicate (tag ".toList ++ (Nat.toDigits 10 tag.toNat ++
        (", set ".toList ++ (Nat.toDigits 10 setIndex.toNat ++
          (") in cache ".toList ++ (Nat.toDigits 10 cache.number.toNat ++
            (": ".toList ++ (Nat.toDigits 10 occurrences ++
              (" lines in ".toList ++ [state.letter])))))))) := by
  simp [text, Address.text, CacheId.text]

theorem toList_text_conflict (peer : CacheId) (peerState : LineState) :
    (text ⟨invariant, cache, ⟨tag, setIndex⟩, state, .conflict peer peerState⟩).toList =
      state.letter :: (" in cache ".toList ++ (Nat.toDigits 10 cache.number.toNat ++
        (" but ".toList ++ (peerState.letter :: (" in cache ".toList ++
          (Nat.toDigits 10 peer.number.toNat ++ (" (tag ".toList ++
            (Nat.toDigits 10 tag.toNat ++ (", set ".toList ++
              (Nat.toDigits 10 setIndex.toNat ++ (")".toList ++ []))))))))))) := by
  simp [text, Address.text, CacheId.text]

end Text

theorem eq_of_text_eq {violation other : Violation}
    (hinvariant : violation.invariant = other.invariant)
    (htext : violation.text = other.text) : violation = other := by
  obtain ⟨invariant, cache, ⟨tag, setIndex⟩, state, kind⟩ := violation
  obtain ⟨_, cache', ⟨tag', setIndex'⟩, state', kind'⟩ := other
  obtain rfl : invariant = _ := hinvariant
  have hlists := congrArg String.toList htext
  cases kind with
  | duplicate occurrences =>
      cases kind' with
      | duplicate occurrences' =>
          rw [toList_text_duplicate, toList_text_duplicate] at hlists
          obtain ⟨htag, hlists⟩ :=
            toDigits_append_word_inj (by decide) (List.append_cancel_left hlists)
          obtain ⟨hset, hlists⟩ := toDigits_append_word_inj (by decide) hlists
          obtain ⟨hcache, hlists⟩ := toDigits_append_word_inj (by decide) hlists
          obtain ⟨hoccurrences, hlists⟩ := toDigits_append_word_inj (by decide) hlists
          rw [UInt64.toNat_inj.mp htag, UInt64.toNat_inj.mp hset, CacheId.eq_of_toNat_eq hcache,
            hoccurrences, LineState.letter_injective (List.singleton_inj.mp hlists)]
      | conflict peer' peerState' =>
          rw [toList_text_duplicate, toList_text_conflict] at hlists
          cases (List.cons.inj (List.cons.inj hlists).2).1
  | conflict peer peerState =>
      cases kind' with
      | duplicate occurrences' =>
          rw [toList_text_duplicate, toList_text_conflict] at hlists
          cases (List.cons.inj (List.cons.inj hlists).2).1
      | conflict peer' peerState' =>
          rw [toList_text_conflict, toList_text_conflict] at hlists
          obtain ⟨hstate, hlists⟩ := List.cons.inj hlists
          obtain ⟨hcache, hlists⟩ :=
            toDigits_append_word_inj (by decide) (List.append_cancel_left hlists)
          obtain ⟨hpeerState, hlists⟩ := List.cons.inj hlists
          obtain ⟨hpeer, hlists⟩ :=
            toDigits_append_word_inj (by decide) (List.append_cancel_left hlists)
          obtain ⟨htag, hlists⟩ := toDigits_append_word_inj (by decide) hlists
          obtain ⟨hset, -⟩ := toDigits_append_word_inj (by decide) hlists
          rw [LineState.letter_injective hstate, LineState.letter_injective hpeerState,
            CacheId.eq_of_toNat_eq hcache, CacheId.eq_of_toNat_eq hpeer,
            UInt64.toNat_inj.mp htag, UInt64.toNat_inj.mp hset]

end Violation

/-! ## Statistics -/

namespace CacheStatistics

/-- The lines on a cache tell its statistics and which lines follow. -/
theorem lines_append_inj
    {statistics other : CacheStatistics} {rest behind : List String}
    (h : statistics.lines ++ rest = other.lines ++ behind) :
    statistics = other ∧ rest = behind := by
  obtain ⟨id, lastUsed, modified, exclusive, shared, invalid, total⟩ := statistics
  obtain ⟨id', lastUsed', modified', exclusive', shared', invalid', total'⟩ := other
  cases lastUsed with
  | none =>
      cases lastUsed' with
      | none =>
          simp only [lines, List.cons_append, List.nil_append, count, LineState.all, List.map_cons,
            List.map_nil, List.cons.injEq, String.append_left_inj, String.append_right_inj,
            CacheId.text_injective.eq_iff, repr_injective.eq_iff, true_and] at h
          obtain ⟨rfl, rfl, rfl, rfl, rfl, rfl, rfl⟩ := h
          exact ⟨rfl, rfl⟩
      | some range' => simp [lines] at h
  | some range =>
      obtain ⟨least, greatest⟩ := range
      cases lastUsed' with
      | none => simp [lines] at h
      | some range' =>
          obtain ⟨least', greatest'⟩ := range'
          simp only [lines, List.cons_append, List.nil_append, count, LineState.all, List.map_cons,
            List.map_nil, List.cons.injEq, String.append_left_inj, String.append_right_inj,
            CacheId.text_injective.eq_iff, repr_injective.eq_iff, UInt64.toNat_inj, true_and] at h
          obtain ⟨rfl, rfl, rfl, rfl, rfl, rfl, rfl, rfl, rfl⟩ := h
          exact ⟨rfl, rfl⟩

theorem lines_append_ne (statistics : CacheStatistics) (rest behind : List String) :
    statistics.lines ++ rest ≠ "<<<Tests>>>" :: behind := by
  intro h
  have hheading : "Cache " ++ statistics.id.text ++ ":" = "<<<Tests>>>" := (List.cons.inj h).1
  have hlists := congrArg String.toList hheading
  rw [String.toList_append, String.toList_append] at hlists
  cases hlists

/-- The statistics end where the heading of the tests stands. -/
theorem flatMap_lines_append_inj
    {caches others : List CacheStatistics} {rest behind : List String}
    (h : caches.flatMap lines ++ "<<<Tests>>>" :: rest =
      others.flatMap lines ++ "<<<Tests>>>" :: behind) : caches = others ∧ rest = behind :=
  flatMap_append_cons_inj lines_append_inj lines_append_ne h

end CacheStatistics

end CacheCoherence
