import CacheCoherence.Snapshot.Basic

/-!
# Indexes of caches

A check asks a cache which addresses it lists in a state, in order and with repetitions, and
whether it holds an address in a state.  The index of a cache answers both.  It is filled in
one pass over the records, which leaves out the lines without a copy.

For each state the index keeps a list of addresses and beside it the set of them.  That they
have the same addresses is part of the type, so that either can be asked for the other.
-/

namespace CacheCoherence

/-- The addresses of the lines in one state: all of them in order, and each once. -/
structure StateLines where
  listed : Array Address
  members : List Address
  mem_members_iff : ∀ address, address ∈ members ↔ address ∈ listed

namespace StateLines

def empty : StateLines where
  listed := #[]
  members := []
  mem_members_iff address := iff_of_false List.not_mem_nil (Array.not_mem_empty address)

def add (lines : StateLines) (address : Address) : StateLines where
  listed := lines.listed.push address
  members := lines.members.insert address
  mem_members_iff other := by
    rw [List.mem_insert_iff, lines.mem_members_iff, Array.mem_push, or_comm]

end StateLines

/-- The valid lines of a cache, apart by their states. -/
structure CacheIndex where
  byState : List (LineState × StateLines)

namespace CacheIndex

def empty : CacheIndex :=
  ⟨[]⟩

/-- Adds an address to the entry of a state, or to a new one when there is none. -/
def addInto (state : LineState) (address : Address) :
    List (LineState × StateLines) → List (LineState × StateLines)
  | [] => [(state, StateLines.empty.add address)]
  | (other, lines) :: rest =>
    if other = state then (state, lines.add address) :: rest
    else (other, lines) :: addInto state address rest

/-- The entry of a state; a state without one has no lines. -/
def linesIn (state : LineState) : List (LineState × StateLines) → StateLines
  | [] => .empty
  | (other, lines) :: rest => if other = state then lines else linesIn state rest

def add (index : CacheIndex) (record : Record) : CacheIndex :=
  ⟨addInto record.state record.address index.byState⟩

/-- The index of a cache with these records. -/
def build (records : List Record) : CacheIndex :=
  (records.filter fun record => record.state.isValid).foldl add empty

/-- The addresses of the lines in a state, in order and with repetitions. -/
def listed (index : CacheIndex) (state : LineState) : List Address :=
  (linesIn state index.byState).listed.toList

/-- Whether there is a line of the address in a state. -/
def holds (index : CacheIndex) (state : LineState) (address : Address) : Bool :=
  address ∈ (linesIn state index.byState).members

theorem holds_eq_true_iff {index : CacheIndex} {state : LineState} {address : Address} :
    index.holds state address = true ↔ address ∈ index.listed state := by
  rw [holds, decide_eq_true_iff, StateLines.mem_members_iff, listed, Array.mem_toList_iff]

/-! ## What a pass over records lists -/

theorem linesIn_addInto
    (state other : LineState) (address : Address) (entries : List (LineState × StateLines)) :
    linesIn other (addInto state address entries) =
      if state = other then (linesIn state entries).add address else linesIn other entries := by
  induction entries with
  | nil => rfl
  | cons entry rest ih =>
    obtain ⟨key, lines⟩ := entry
    rw [addInto, linesIn, linesIn]
    by_cases hkey : key = state
    · subst hkey
      rw [if_pos rfl, if_pos rfl, linesIn]
      by_cases hother : key = other
      · rw [if_pos hother, if_pos hother]
      · rw [if_neg hother, if_neg hother, if_neg hother]
    · rw [if_neg hkey, if_neg hkey, linesIn, ih]
      by_cases hother : state = other
      · rw [if_pos hother, if_pos hother, if_neg (hother ▸ hkey)]
      · rw [if_neg hother, if_neg hother]

theorem listed_add (index : CacheIndex) (record : Record) (state : LineState) :
    (index.add record).listed state =
      if record.state = state then index.listed state ++ [record.address]
      else index.listed state := by
  rw [listed, add, linesIn_addInto]
  by_cases hstate : record.state = state
  · subst hstate
    rw [if_pos rfl, if_pos rfl, StateLines.add, Array.toList_push]
    rfl
  · rw [if_neg hstate, if_neg hstate]
    rfl

theorem listed_foldl_add (index : CacheIndex) (records : List Record) (state : LineState) :
    (records.foldl add index).listed state =
      index.listed state ++
        (records.filter fun record => record.state = state).map Record.address := by
  induction records generalizing index with
  | nil => rw [List.foldl_nil, List.filter_nil, List.map_nil, List.append_nil]
  | cons record rest ih =>
    rw [List.foldl_cons, ih, listed_add, List.filter_cons]
    by_cases hstate : record.state = state
    · rw [if_pos hstate, if_pos (decide_eq_true hstate), List.map_cons, List.append_assoc,
        List.singleton_append]
    · rw [if_neg hstate, if_neg (mt of_decide_eq_true hstate)]

/-- An index lists the addresses of the valid lines in their order. -/
theorem listed_build (records : List Record) (state : LineState) :
    (build records).listed state =
      (records.filter fun record => record.state = state && record.state.isValid).map
        Record.address := by
  rw [build, listed_foldl_add, List.filter_filter]
  rfl

/-- Lines without a copy are not indexed. -/
theorem listed_build_invalid (records : List Record) :
    (build records).listed .invalid = [] := by
  rw [listed_build, List.map_eq_nil_iff, List.filter_eq_nil_iff]
  intro record _ hboth
  obtain ⟨hinvalid, hvalid⟩ := (Bool.and_eq_true _ _).mp hboth
  rw [of_decide_eq_true hinvalid] at hvalid
  cases hvalid

end CacheIndex

end CacheCoherence
