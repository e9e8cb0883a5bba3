import CacheCoherence.Snapshot.Basic
import CacheCoherence.Text.Lines

/-!
# Writing a snapshot as a dump

A dump is one section between an opening and a closing marker line.  Each cache
has a header line, followed by one line with a record literal for each of its
records.  The marker texts and the first words of headers and literals are fixed
here, for the writer and for the reader of dumps.
-/

namespace CacheCoherence

namespace Dump

/-- The text that marks the opening line of a section. -/
def sectionOpening : String := "CACHE CONTENT"

/-- The text that marks the closing line of a section. -/
def sectionClosing : String := "CACHE END"

/-- The word in front of the identifier in a cache header. -/
def headerWord : String := "Cache "

/-- The word in front of a record literal. -/
def recordWord : String := "CacheLine"

end Dump

def Record.literal (record : Record) : String :=
  Dump.recordWord ++ "\x7bset_index: " ++ record.setIndex.toNat.repr ++
    ", tag: " ++ record.tag.toNat.repr ++
    ", last_used: " ++ record.lastUsed.toNat.repr ++
    ", status: " ++ record.state.letter.toString ++ "\x7d"

/-- The header of a cache, and a line for each of its records. -/
def Cache.dumpLines (cache : Cache) : List String :=
  (Dump.headerWord ++ cache.id.text ++ ": ") ::
    cache.records.map fun record => "\t" ++ record.literal

def Snapshot.dumpLines (snapshot : Snapshot) : List String :=
  [Dump.sectionOpening] ++ snapshot.caches.flatMap Cache.dumpLines ++ [Dump.sectionClosing]

def Snapshot.dump (snapshot : Snapshot) : String :=
  Text.unlines snapshot.dumpLines

end CacheCoherence
