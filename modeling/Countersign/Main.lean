import Countersign.Command.Job

/-! The command line program. No network is at hand: gateways give no response, and feeds stay silent. -/

open Countersign

namespace Countersign.Main

def conclude (r : Report) : IO UInt32 := do
  for text in r.output do
    IO.println text
  for text in r.errors do
    IO.eprintln text
  return UInt32.ofNat r.code

def cause : IO.Error → String
  | .noFileOrDirectory .. => "No such file or directory (os error 2)"
  | .permissionDenied .. => "Permission denied (os error 13)"
  | .inappropriateType .. => "Is a directory (os error 21)"
  | e => toString e

def readFile (path : String) : IO (Except String String) := do
  try
    return .ok (← IO.FS.readFile path)
  catch e =>
    return .error (cause e)

partial def waitForEver : IO UInt32 := do
  IO.sleep 60000
  waitForEver

def carryOut : Job → IO UInt32
  | .finished report => conclude report
  | .reading path next => do conclude (next (← readFile path))
  | .asking inquiry => conclude (inquiry.conclude (fun _ _ => (none, ())) ()).1
  | .watching watch =>
    match watch.conclude? (.unreachable "no network") with
    | some report => conclude report
    | none => waitForEver

def environment : IO (List (String × String)) :=
  Command.environmentNames.filterMapM fun name => return (← IO.getEnv name).map (name, ·)

end Countersign.Main

def main (words : List String) : IO UInt32 := do
  match Command.read (← Main.environment) words with
  | .ok invocation => Main.carryOut invocation.command.job
  | .error stop => Main.conclude stop.report
