import CacheCoherence.Main
import CacheCoherence.Proofs.Coherence.Law
import CacheCoherence.Proofs.Dump.RoundTrip
import CacheCoherence.Proofs.CommandLine.ExitStatus
import CacheCoherence.Proofs.Coherence.Balance
import CacheCoherence.Proofs.Coherence.Mirror
import CacheCoherence.Proofs.Coherence.Involvement
import CacheCoherence.Proofs.Coherence.Restriction
import CacheCoherence.Proofs.Coherence.Renaming
import CacheCoherence.Proofs.Coherence.Reordering
import CacheCoherence.Proofs.Coherence.Discovery
import CacheCoherence.Proofs.Coherence.Observation
import CacheCoherence.Proofs.Coherence.Growth
import CacheCoherence.Proofs.Dump.Moves
import CacheCoherence.Proofs.Dump.Sections
import CacheCoherence.Proofs.Dump.Contents
import CacheCoherence.Proofs.Dump.Concatenation
import CacheCoherence.Proofs.Dump.Warnings
import CacheCoherence.Proofs.Dump.LiteralErrors
import CacheCoherence.Proofs.Dump.RecordLines
import CacheCoherence.Proofs.Dump.Headers
import CacheCoherence.Proofs.Dump.Spacing
import CacheCoherence.Proofs.Dump.Drafts
import CacheCoherence.Proofs.Dump.Terminators
import CacheCoherence.Proofs.Statistics
import CacheCoherence.Proofs.Report.Agreement
import CacheCoherence.Proofs.Viewer.Message
import CacheCoherence.Proofs.Viewer.Resizing
import CacheCoherence.Proofs.Viewer.Scrolling
