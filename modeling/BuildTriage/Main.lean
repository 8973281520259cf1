import BuildTriage.CommandLine.Run
import BuildTriage.KnowledgeBase.TableText
import Std.Time.DateTime.Timestamp

/-!
# The program

Reads the files that a command line names, runs it on them, writes the file of the
knowledge base and prints what the run says.
-/

namespace BuildTriage.CommandLine

/-- The directory with what a path leads to on this machine. The folder of a file that is
not there is taken to exist until it is written to. -/
def observe (d : Directory) (path : String) : IO Directory := do
  if path.isEmpty then return d
  try
    let bytes ← IO.FS.readBinFile path
    let content := match String.fromUTF8? bytes with
      | none => FileContent.bytes
      | some text => match CauseTable.ofText? text with
        | some tables => .tables tables
        | none => .text text
    return d.put path content
  catch e =>
    match e with
    | .inappropriateType .. => return d.addFolder (pathParts path)
    | .noFileOrDirectory .. => return d.addFolder (pathParts path).dropLast
    | _ => return d

/-- The log that a request names. -/
def Request.log? : Request → Option String
  | .scan log _ => some log
  | _ => none

/-- The files that a command line names. -/
def gather (a : Arguments) : IO Directory := do
  let d ← observe .empty (a.settings.getD "")
  let d ← observe d ((a.request.log?).getD "")
  match settingsAt d a.settings with
  | .ok s => observe d (s.knowledgeBase.path.getD "")
  | .error _ => return d

/-- Writes a text to a file, which keeps its old text until the new one is complete. -/
def replaceFile (path text : String) : IO Unit := do
  IO.FS.writeFile (path ++ ".tmp") text
  IO.FS.rename (path ++ ".tmp") path

/-- Writes the files that a run has changed. -/
def keep (before after : Directory) : IO Unit := do
  for (parts, content) in after.files do
    if before.files.lookup parts ≠ some content then
      let path := match parts with
        | "/" :: rest => "/" ++ "/".intercalate rest
        | _ => "/".intercalate parts
      match content with
      | .text text => replaceFile path text
      | .tables tables => replaceFile path tables.toText
      | .bytes => pure ()

/-- The hexadecimal digits of a byte. -/
def hexadecimal (b : UInt8) : String :=
  String.ofList [Nat.digitChar (b.toNat / 16), Nat.digitChar (b.toNat % 16)]

/-- A random id. -/
def randomId : IO String := do
  let bytes ← IO.getRandomBytes 16
  let marked := (bytes.set! 6 (bytes.get! 6 % 16 + 64)).set! 8 (bytes.get! 8 % 64 + 128)
  let digits := marked.toList.map hexadecimal
  let part (start length : Nat) : String := String.join ((digits.drop start).take length)
  return "-".intercalate [part 0 4, part 4 2, part 6 2, part 8 2, part 10 6]

/-- The time in milliseconds. -/
def currentTime : IO UInt64 := do
  let now ← Std.Time.Timestamp.now
  return UInt64.ofNat now.toMillisecondsSinceUnixEpoch.val.toNat

/-- Runs the program on this machine; answers its exit code. -/
def execute (words : List String) : IO UInt32 := do
  let exit ← match readArguments words with
    | .error e => pure (Exit.usage e)
    | .ok a => do
      let before ← gather a
      let (exit, after) := carryOut a before (← currentTime) (← randomId)
      keep before after
      pure exit
  IO.print exit.output
  IO.eprint exit.complaint
  return UInt32.ofNat exit.code

end BuildTriage.CommandLine

/-- Runs the program. -/
def main (words : List String) : IO UInt32 := BuildTriage.CommandLine.execute words
