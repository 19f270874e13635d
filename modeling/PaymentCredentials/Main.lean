import PaymentCredentials.Console.Run
import Std.Time.DateTime.Timestamp

/-!
The operator's console as a program.
-/
namespace PaymentCredentials.Console

/-- A file, or why it cannot be read. -/
def readFile (path : String) : IO (Except FileFault Bytes) := do
  try
    let b ← IO.FS.readBinFile path
    return .ok b.data.toList
  catch e =>
    match e with
    | .noFileOrDirectory .. => return .error ⟨false, "No such file or directory (os error 2)"⟩
    | .permissionDenied .. => return .error ⟨false, "Permission denied (os error 13)"⟩
    | .inappropriateType _ 20 _ => return .error ⟨false, "Not a directory (os error 20)"⟩
    | .inappropriateType .. => return .error ⟨true, "Is a directory (os error 21)"⟩
    | .invalidArgument _ 36 _ => return .error ⟨false, "File name too long (os error 36)"⟩
    | e => return .error ⟨false, toString e⟩

/-- The files that a command names, read before it runs. -/
def Command.paths : Command → List String
  | .configTest path | .tokenIssue path _ _ | .tokenInspect path _ => [path]
  | .signInit _ file _ _ => if isInput file then [] else [file]
  | _ => []

def Command.readsInput : Command → Bool
  | .signInit _ file _ _ => isInput file
  | _ => false

def currentTime : IO Instant := do
  let t ← Std.Time.Timestamp.now
  let nanos := t.toNanosecondsSinceUnixEpoch.val
  return (Instant.ofUnix? (nanos.fdiv nanosPerSecond) (nanos.fmod nanosPerSecond).toNat).getD .earliest

def observe (c : Command) : IO World := do
  let files ← c.paths.mapM fun path => return (path, ← readFile path)
  let input ← if c.readsInput then (← IO.getStdin).readBinToEnd else pure .empty
  let random ← IO.getRandomBytes c.randomBytes.toUSize
  let find (path : String) : Except FileFault Bytes :=
    match files.find? fun f => f.1 = path with
    | some (_, file) => file
    | none => .error ⟨false, "No such file or directory (os error 2)"⟩
  return ⟨find, input.data.toList, ← currentTime, ⟨random.data.toList⟩⟩

end PaymentCredentials.Console

open PaymentCredentials.Console

def main (args : List String) : IO UInt32 := do
  let report ←
    match Command.ofArguments args with
    | .ok c => pure (c.run (← observe c))
    | .error refusal => pure refusal.report
  (← IO.getStdout).putStr report.output
  (← IO.getStderr).putStr report.errors
  return report.code.toUInt32
