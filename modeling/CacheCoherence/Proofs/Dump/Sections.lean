import CacheCoherence.Proofs.Dump.Moves

/-!
# The sections of a dump

A dump is divided into sections and lines outside without a reader that goes through
it, and each line of a section fits or does not fit below the lines above it there.
The reader accepts a dump exactly when all lines of its sections fit.

The proof is an induction on the lines, for a reader outside and for one inside a
section.  All that matters of the section that is open is which of its lines stand
above, and of those only whether one is a header.
-/

namespace CacheCoherence.Dump

/-! ## What fits -/

/-- The lines up to the next closing marker. -/
def upToClosing (kinds : List LineKind) : List LineKind :=
  kinds.takeWhile (· ≠ .sectionClose)

/-- The lines from the next closing marker on. -/
def fromClosing (kinds : List LineKind) : List LineKind :=
  kinds.dropWhile (· ≠ .sectionClose)

theorem length_fromClosing_le (kinds : List LineKind) :
    (fromClosing kinds).length ≤ kinds.length :=
  (List.dropWhile_sublist _).length_le

/-- The insides of the sections: what follows an opening marker that is met outside,
up to the next closing marker or to the end. -/
def sections : List LineKind → List (List LineKind)
  | [] => []
  | kind :: rest =>
    if kind = .sectionOpen then
      upToClosing rest :: sections (fromClosing rest)
    else
      sections rest
termination_by kinds => kinds.length
decreasing_by
  · exact Nat.lt_succ_of_le (length_fromClosing_le rest)
  · exact Nat.lt_succ_self rest.length

/-- A line fits in a section where these lines of it stand above. -/
inductive Fits (above : List LineKind) : LineKind → Prop
  | sectionOpen : Fits above .sectionOpen
  | sectionClose : Fits above .sectionClose
  | blank : Fits above .blank
  | header (id : CacheId) : Fits above (.header id)
  | record {literal : Text} {record : Record} (hread : readRecord literal = .ok record)
      {id : CacheId} (hlisted : .header id ∈ above) : Fits above (.record literal)

/-- Lines fit, one below the other, where these lines stand above them. -/
def FitBelow (above inside : List LineKind) : Prop :=
  ∀ front kind back, inside = front ++ kind :: back → Fits (above ++ front) kind

/-! ## Sections line by line -/

theorem upToClosing_closing (rest : List LineKind) :
    upToClosing (.sectionClose :: rest) = [] := rfl

theorem upToClosing_cons {kind : LineKind} (hkind : kind ≠ .sectionClose)
    (rest : List LineKind) : upToClosing (kind :: rest) = kind :: upToClosing rest :=
  List.takeWhile_cons_of_pos (decide_eq_true hkind)

theorem fromClosing_cons {kind : LineKind} (hkind : kind ≠ .sectionClose)
    (rest : List LineKind) : fromClosing (kind :: rest) = fromClosing rest :=
  List.dropWhile_cons_of_pos (decide_eq_true hkind)

theorem sections_nil : sections [] = [] := by
  rw [sections]

theorem sections_opening (rest : List LineKind) :
    sections (.sectionOpen :: rest) = upToClosing rest :: sections (fromClosing rest) := by
  rw [sections, if_pos rfl]

theorem sections_cons {kind : LineKind} (hkind : kind ≠ .sectionOpen) (rest : List LineKind) :
    sections (kind :: rest) = sections rest := by
  rw [sections, if_neg hkind]

theorem sections_fromClosing_closing (rest : List LineKind) :
    sections (fromClosing (.sectionClose :: rest)) = sections rest := by
  have hkind : LineKind.sectionClose ≠ .sectionOpen := nofun
  exact sections_cons hkind rest

theorem fitBelow_nil (above : List LineKind) : FitBelow above [] := by
  intro front kind back h
  exact absurd h.symm (List.append_ne_nil_of_right_ne_nil front (List.cons_ne_nil kind back))

theorem fitBelow_cons_iff {above inside : List LineKind} {kind : LineKind} :
    FitBelow above (kind :: inside) ↔ Fits above kind ∧ FitBelow (above ++ [kind]) inside := by
  constructor
  · intro hfit
    constructor
    · simpa using hfit [] kind inside rfl
    · intro front later back h
      rw [List.append_assoc]
      exact hfit (kind :: front) later back (congrArg (List.cons kind) h)
  · rintro ⟨hfirst, hrest⟩ front later back h
    rcases List.cons_eq_append_iff.mp h with ⟨rfl, hcons⟩ | ⟨front, rfl, hinside⟩
    · cases hcons
      rwa [List.append_nil]
    · have hlater := hrest front later back hinside
      rwa [List.append_assoc] at hlater

/-! ## Acceptance -/

namespace State

/-- The reader is inside a section, below these lines of it. -/
structure StandsBelow (state : State) (above : List LineKind) : Prop where
  inside : state.place ≠ .outside
  listing_iff :
    (∃ id records, state.place = .listing id records) ↔ ∃ id, .header id ∈ above

theorem standsBelow_goTo_unlisted (state : State) :
    (state.goTo .unlisted).StandsBelow [] := by
  constructor
  · rw [place_goTo]
    exact nofun
  · rw [place_goTo]
    simp

namespace StandsBelow

variable {state next : State} {above : List LineKind} {kind : LineKind}

theorem of_moves (hbelow : state.StandsBelow above) (hkind : kind ≠ .sectionClose)
    (hmoves : state.Moves kind next) : Fits above kind ∧ next.StandsBelow (above ++ [kind]) := by
  cases hmoves with
  | pass houtside => exact absurd houtside hbelow.inside
  | enter houtside => exact absurd houtside hbelow.inside
  | stay hinside hstay =>
      have hlisting := hbelow.listing_iff
      rcases hstay with rfl | rfl
      · exact ⟨.sectionOpen, hinside, by simpa using hlisting⟩
      · exact ⟨.blank, hinside, by simpa using hlisting⟩
  | leave => exact absurd rfl hkind
  | list hinside id =>
      refine ⟨.header id, ?_, ?_⟩
      · rw [place_goTo]
        exact nofun
      · rw [place_goTo]
        exact iff_of_true ⟨id, #[], rfl⟩ ⟨id, List.mem_append_right _ List.mem_cons_self⟩
  | add complete id records hread =>
      obtain ⟨listed, hlisted⟩ := hbelow.listing_iff.mp ⟨id, records, rfl⟩
      refine ⟨.record hread hlisted, nofun, ?_⟩
      exact iff_of_true ⟨id, _, rfl⟩ ⟨listed, List.mem_append_left _ hlisted⟩

theorem exists_moves (hbelow : state.StandsBelow above) (hfits : Fits above kind) :
    ∃ next, state.Moves kind next := by
  cases hfits with
  | sectionOpen => exact ⟨state, .stay hbelow.inside (Or.inl rfl)⟩
  | sectionClose => exact ⟨_, .leave hbelow.inside⟩
  | blank => exact ⟨state, .stay hbelow.inside (Or.inr rfl)⟩
  | header id => exact ⟨_, .list hbelow.inside id⟩
  | record hread hlisted =>
      obtain ⟨complete, place⟩ := state
      obtain ⟨id, records, rfl⟩ := hbelow.listing_iff.mpr ⟨_, hlisted⟩
      exact ⟨_, .add complete id records hread⟩

end StandsBelow

theorem exists_reads_cons_iff {state : State} {kind : LineKind} {rest : List LineKind} :
    (∃ final, state.Reads (kind :: rest) final) ↔
      ∃ next, state.Moves kind next ∧ ∃ final, next.Reads rest final := by
  constructor
  · rintro ⟨final, _ | ⟨hmoves, hrest⟩⟩
    exact ⟨_, hmoves, final, hrest⟩
  · rintro ⟨next, hmoves, final, hrest⟩
    exact ⟨final, .cons hmoves hrest⟩

theorem exists_reads_cons_of_moves
    {state next : State} {kind : LineKind} (hmoves : state.Moves kind next)
    (rest : List LineKind) :
    (∃ final, state.Reads (kind :: rest) final) ↔ ∃ final, next.Reads rest final := by
  rw [exists_reads_cons_iff]
  constructor
  · rintro ⟨other, hother, hrest⟩
    have hsame : next = other :=
      Except.ok.inj ((step_eq_ok_iff.mpr hmoves).symm.trans (step_eq_ok_iff.mpr hother))
    rwa [hsame]
  · intro hrest
    exact ⟨next, hmoves, hrest⟩

/-- Lines are read without an error when the sections fit that they make up, from
outside or together with the section that is open. -/
theorem exists_reads_iff_fitBelow (kinds : List LineKind) :
    (∀ state : State, state.place = .outside →
      ((∃ final, state.Reads kinds final) ↔
        ∀ inside ∈ sections kinds, FitBelow [] inside)) ∧
    ∀ (state : State) (above : List LineKind), state.StandsBelow above →
      ((∃ final, state.Reads kinds final) ↔
        FitBelow above (upToClosing kinds) ∧
          ∀ inside ∈ sections (fromClosing kinds), FitBelow [] inside) := by
  -- Both cases are needed at once, since a marker leads from the one to the other.
  induction kinds with
  | nil =>
      constructor
      · intro state _
        rw [sections_nil]
        exact iff_of_true ⟨state, .nil state⟩ nofun
      · intro state above _
        rw [fromClosing, List.dropWhile_nil, sections_nil]
        exact iff_of_true ⟨state, .nil state⟩ ⟨fitBelow_nil above, nofun⟩
  | cons kind rest ih =>
      obtain ⟨ihOutside, ihInside⟩ := ih
      constructor
      · intro state houtside
        by_cases hkind : kind = .sectionOpen
        · subst hkind
          rw [exists_reads_cons_of_moves (.enter houtside), sections_opening,
            List.forall_mem_cons]
          exact ihInside _ [] state.standsBelow_goTo_unlisted
        · rw [exists_reads_cons_of_moves (.pass houtside hkind), sections_cons hkind]
          exact ihOutside state houtside
      · intro state above hbelow
        by_cases hkind : kind = .sectionClose
        · subst hkind
          rw [exists_reads_cons_of_moves (.leave hbelow.inside), upToClosing_closing,
            sections_fromClosing_closing, and_iff_right (fitBelow_nil above)]
          exact ihOutside _ (place_goTo state .outside)
        · -- That the line fits is what makes a move possible, so the move is not known yet.
          rw [upToClosing_cons hkind, fromClosing_cons hkind, fitBelow_cons_iff,
            exists_reads_cons_iff]
          constructor
          · rintro ⟨next, hmoves, hrest⟩
            obtain ⟨hfits, hnext⟩ := hbelow.of_moves hkind hmoves
            obtain ⟨hinside, hlater⟩ := (ihInside next _ hnext).mp hrest
            exact ⟨⟨hfits, hinside⟩, hlater⟩
          · rintro ⟨⟨hfits, hinside⟩, hlater⟩
            obtain ⟨next, hmoves⟩ := hbelow.exists_moves hfits
            have hnext := (hbelow.of_moves hkind hmoves).2
            exact ⟨next, hmoves, (ihInside next _ hnext).mpr ⟨hinside, hlater⟩⟩

end State

end CacheCoherence.Dump
