import CacheCoherence.Proofs.Json.Writer
import CacheCoherence.Report.Data
import Mathlib.Data.List.Basic

/-!
# What the data report tells

Different statistics, outcomes and violations have different JSON forms, and so have
whole reports: every member is found again by its place, a missing range is no range, and
the member that names a kind tells which members stand beside it.  As different JSON values
are written differently, the text of a report is as good as the report.
-/

namespace CacheCoherence

/-! ## Names and numbers -/

theorem LineState.name_injective : Function.Injective name := by
  intro state other h
  cases state <;> cases other <;> simp_all [name]

theorem Invariant.name_injective : Function.Injective name := by
  intro invariant other h
  cases invariant <;> cases other <;> simp_all [name]

theorem Mode.name_injective : Function.Injective name := by
  intro mode other h
  cases mode <;> cases other <;> simp_all [name]

theorem CacheId.json_injective : Function.Injective json := by
  rintro ⟨number⟩ ⟨other⟩ h
  exact congrArg CacheId.mk (UInt32.toNat_inj.mp (Json.number.inj h))

theorem Address.json_injective : Function.Injective json := by
  rintro ⟨tag, setIndex⟩ ⟨tag', setIndex'⟩ h
  simp only [json, Json.object.injEq, List.cons.injEq, Prod.mk.injEq, Json.number.injEq,
    UInt64.toNat_inj] at h
  obtain ⟨⟨-, rfl⟩, ⟨-, rfl⟩, -⟩ := h
  rfl

theorem RecencyRange.json_injective : Function.Injective json := by
  rintro ⟨least, greatest⟩ ⟨least', greatest'⟩ h
  simp only [json, Json.object.injEq, List.cons.injEq, Prod.mk.injEq, Json.number.injEq,
    UInt64.toNat_inj] at h
  obtain ⟨⟨-, rfl⟩, ⟨-, rfl⟩, -⟩ := h
  rfl

/-! ## Statistics -/

/-- A range is an object, so that null stands for no range. -/
theorem RecencyRange.getD_json_injective :
    Function.Injective fun range? : Option RecencyRange => (range?.map json).getD .null := by
  intro range? other? h
  cases range? with
  | none =>
      cases other? with
      | none => rfl
      | some other => cases h
  | some range =>
      cases other? with
      | none => cases h
      | some other => exact congrArg some (json_injective h)

theorem CacheStatistics.json_injective : Function.Injective json := by
  rintro ⟨id, lastUsed, modified, exclusive, shared, invalid, total⟩
    ⟨id', lastUsed', modified', exclusive', shared', invalid', total'⟩ h
  simp only [json, Json.object.injEq, List.cons.injEq, Prod.mk.injEq, Json.number.injEq] at h
  obtain ⟨⟨-, hid⟩, ⟨-, hlastUsed⟩, ⟨-, rfl⟩, ⟨-, rfl⟩, ⟨-, rfl⟩, ⟨-, rfl⟩, ⟨-, rfl⟩, -⟩ := h
  rw [CacheId.json_injective hid, RecencyRange.getD_json_injective hlastUsed]

theorem Statistics.json_injective : Function.Injective json := by
  rintro ⟨caches⟩ ⟨others⟩ h
  exact congrArg Statistics.mk
    (List.map_injective_iff.mpr CacheStatistics.json_injective (Json.list.inj h))

/-! ## Outcomes and violations -/

theorem Verdict.members_injective : Function.Injective members := by
  intro verdict other h
  cases verdict <;> cases other <;> simp_all [members]

theorem Outcome.json_injective : Function.Injective json := by
  rintro ⟨cache, invariant, verdict⟩ ⟨cache', invariant', verdict'⟩ h
  simp only [json, Json.object.injEq, List.cons_append, List.nil_append, List.cons.injEq,
    Prod.mk.injEq, Json.string.injEq] at h
  obtain ⟨⟨-, hcache⟩, ⟨-, hinvariant⟩, hverdict⟩ := h
  rw [CacheId.json_injective hcache, Invariant.name_injective hinvariant,
    Verdict.members_injective hverdict]

/-- The member in front tells whether a violation is a duplicate or a conflict. -/
theorem Violation.json_injective : Function.Injective json := by
  rintro ⟨invariant, cache, address, state, kind⟩ ⟨invariant', cache', address', state', kind'⟩ h
  cases kind with
  | duplicate occurrences =>
      cases kind' with
      | duplicate occurrences' =>
          simp only [json, Json.object.injEq, List.cons_append, List.nil_append, List.cons.injEq,
            Prod.mk.injEq, Json.string.injEq, Json.number.injEq] at h
          obtain ⟨-, ⟨-, hinvariant⟩, ⟨-, hcache⟩, ⟨-, haddress⟩, ⟨-, hstate⟩, ⟨-, rfl⟩, -⟩ := h
          rw [Invariant.name_injective hinvariant, CacheId.json_injective hcache,
            Address.json_injective haddress, LineState.name_injective hstate]
      | conflict peer' peerState' => simp [json] at h
  | conflict peer peerState =>
      cases kind' with
      | duplicate occurrences' => simp [json] at h
      | conflict peer' peerState' =>
          simp only [json, Json.object.injEq, List.cons_append, List.nil_append, List.cons.injEq,
            Prod.mk.injEq, Json.string.injEq] at h
          obtain ⟨-, ⟨-, hinvariant⟩, ⟨-, hcache⟩, ⟨-, haddress⟩, ⟨-, hstate⟩, ⟨-, hpeer⟩,
            ⟨-, hpeerState⟩, -⟩ := h
          rw [Invariant.name_injective hinvariant, CacheId.json_injective hcache,
            Address.json_injective haddress, LineState.name_injective hstate,
            CacheId.json_injective hpeer, LineState.name_injective hpeerState]

/-! ## Reports -/

namespace Verification

/-- The JSON forms of two reports are the same exactly when all that they report is. -/
theorem json_eq_iff {verification other : Verification} :
    verification.json = other.json ↔
      verification.source = other.source ∧ verification.passed = other.passed ∧
        verification.report.mode = other.report.mode ∧
        verification.statistics = other.statistics ∧
        verification.report.outcomes = other.report.outcomes ∧
        verification.report.violations = other.report.violations := by
  constructor
  · intro hjson
    simp only [json, Report.outcomesJson, Report.violationsJson, Json.object.injEq,
      List.cons.injEq, Prod.mk.injEq, Json.string.injEq, Json.bool.injEq, Json.list.injEq] at hjson
    obtain ⟨⟨-, hsource⟩, ⟨-, hpassed⟩, ⟨-, hmode⟩, ⟨-, hstatistics⟩, ⟨-, houtcomes⟩,
      ⟨-, hviolations⟩, -⟩ := hjson
    exact ⟨hsource, hpassed, Mode.name_injective hmode, Statistics.json_injective hstatistics,
      List.map_injective_iff.mpr Outcome.json_injective houtcomes,
      List.map_injective_iff.mpr Violation.json_injective hviolations⟩
  · rintro ⟨hsource, hpassed, hmode, hstatistics, houtcomes, hviolations⟩
    rw [json, json, Report.outcomesJson, Report.outcomesJson, Report.violationsJson,
      Report.violationsJson, hsource, hpassed, hmode, hstatistics, houtcomes, hviolations]

/-- The text of two data reports is the same exactly when all that they report is. -/
theorem jsonText_eq_iff (verification other : Verification) :
    verification.jsonText = other.jsonText ↔
      verification.source = other.source ∧ verification.passed = other.passed ∧
        verification.report.mode = other.report.mode ∧
        verification.statistics = other.statistics ∧
        verification.report.outcomes = other.report.outcomes ∧
        verification.report.violations = other.report.violations :=
  Json.pretty_injective.eq_iff.trans json_eq_iff

end Verification

end CacheCoherence
