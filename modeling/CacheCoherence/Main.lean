import CacheCoherence.CommandLine.Run
import CacheCoherence.Viewer.Screen

/-!
# The command

Everything that touches the outside world: files are read, the outputs are
written, and in the viewer each line of the input names a key.
-/

namespace CacheCoherence

open Viewer

/-- What the file system has to say about an error. -/
def FileError.ofSystem (error : IO.Error) : FileError :=
  match error with
  | .noFileOrDirectory .. => .noSuchFile
  | .inappropriateType _ code _ => if code = 21 then .isADirectory else .notADirectory
  | .permissionDenied .. => .permissionDenied
  | other => .system (toString other)

def readFile (path : String) : IO (Except FileError String) := do
  try
    let bytes ← IO.FS.readBinFile path
    match String.fromUTF8? bytes with
    | some text => return .ok text
    | none => return .error .invalidUtf8
  catch error =>
    return .error (FileError.ofSystem error)

/-- The key that a line of the input names. -/
def keyOfLine (line : String) : Key :=
  match line with
  | "up" => .up
  | "down" => .down
  | "pageup" => .pageUp
  | "pagedown" => .pageDown
  | "home" => .home
  | "end" => .endKey
  | "tab" => .tab
  | "backtab" => .backTab
  | "escape" => .escape
  | _ =>
    match line.toList with
    | [c] => .character c
    | _ => .other

/-- Shows a session and follows the keys until the user leaves it. -/
partial def browse (session : Session) (size : Size) : IO Unit := do
  let session := session.settle size
  for row in session.screen size do
    IO.println (String.ofList (row.map Cell.glyph))
  unless session.quit do
    let line ← (← IO.getStdin).getLine
    unless line.isEmpty do
      browse (session.press (keyOfLine (String.ofList (Text.trim line.toList)))) size

def runCommand (arguments : List String) : IO UInt32 := do
  let directives? ← IO.getEnv "RUST_LOG"
  let contents ←
    match CommandLine.parse arguments with
    | .ok options => readFile options.dump
    | .error _ => pure (.error .noSuchFile)
  match CommandLine.run arguments directives? fun _ => contents with
  | .exit result =>
    IO.print result.stdout
    for line in result.stderr do
      IO.eprintln line
    return UInt32.ofNat result.status
  | .browse verification log =>
    for line in log do
      IO.eprintln line
    browse (Session.start verification) (Size.ofTerminal 80 24)
    return UInt32.ofNat (CommandLine.exitStatus verification)

end CacheCoherence

def main (arguments : List String) : IO UInt32 :=
  CacheCoherence.runCommand arguments
