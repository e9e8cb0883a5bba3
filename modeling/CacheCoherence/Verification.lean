import CacheCoherence.Coherence.Check
import CacheCoherence.Dump.Reader
import CacheCoherence.Statistics

/-!
# Verifying a dump

A dump is read, described and checked; nothing is described or checked of a dump
that cannot be read.  The contents of files come from a function that the caller
provides, so that a verification is a value like any other.
-/

namespace CacheCoherence

/-- A verified dump: where it came from, what it holds, and what was found. -/
structure Verification where
  source : String
  snapshot : Snapshot
  statistics : Statistics
  report : Report
  deriving DecidableEq

namespace Verification

def passed (verification : Verification) : Bool :=
  verification.report.isClean

def ofSnapshot (source : String) (protocol : Protocol) (mode : Mode) (snapshot : Snapshot) :
    Verification where
  source
  snapshot
  statistics := snapshot.statistics
  report := snapshot.check protocol.rules mode

def finishedEntry (verification : Verification) : Log.Entry where
  level := .info
  target := "cohcheck::verify"
  message := "verification finished"
  fields :=
    [("source", verification.source),
      ("caches", verification.snapshot.size.repr),
      ("violations", verification.report.violations.length.repr)]

end Verification

def verify (source text : String) (protocol : Protocol) (mode : Mode) :
    Except Dump.ReadError Verification :=
  (Dump.read text).map (Verification.ofSnapshot source protocol mode)

def verifyEntries (source text : String) (protocol : Protocol) (mode : Mode) :
    List Log.Entry :=
  (Dump.notices text).map Dump.Notice.entry ++
    match Dump.read text with
    | .error _ => []
    | .ok snapshot =>
      (snapshot.checkNotices protocol.rules mode).map CheckNotice.entry ++
        [(Verification.ofSnapshot source protocol mode snapshot).finishedEntry]

/-- Why the text of a file cannot be had. -/
inductive FileError where
  | noSuchFile
  | permissionDenied
  | notADirectory
  | isADirectory
  | invalidUtf8
  | system (text : String)
  deriving DecidableEq, Repr

def FileError.message : FileError → String
  | noSuchFile => "No such file or directory (os error 2)"
  | permissionDenied => "Permission denied (os error 13)"
  | notADirectory => "Not a directory (os error 20)"
  | isADirectory => "Is a directory (os error 21)"
  | invalidUtf8 => "stream did not contain valid UTF-8"
  | system text => text

/-- Why a file cannot be verified. -/
inductive VerifyError where
  | unreadable (path : String) (reason : FileError)
  | malformed (error : Dump.ReadError)
  deriving DecidableEq, Repr

namespace VerifyError

/-- The wording of an error, without the reason that the file system gave. -/
def message : VerifyError → String
  | unreadable path _ => "failed to read '" ++ path ++ "'"
  | malformed error => error.message

/-- The wording of an error, with everything that is known about it. -/
def fullMessage (error : VerifyError) : String :=
  match error with
  | unreadable _ reason => error.message ++ ": " ++ reason.message
  | malformed _ => error.message

end VerifyError

/-- Verifies a file, whose path is the source that the result names. -/
def verifyFile (readFile : String → Except FileError String) (path : String)
    (protocol : Protocol) (mode : Mode) : Except VerifyError Verification :=
  match readFile path with
  | .error reason => .error (.unreadable path reason)
  | .ok text => (verify path text protocol mode).mapError .malformed

def verifyFileEntries (readFile : String → Except FileError String) (path : String)
    (protocol : Protocol) (mode : Mode) : List Log.Entry :=
  match readFile path with
  | .error _ => []
  | .ok text => verifyEntries path text protocol mode

end CacheCoherence
