import Std.Time.DateTime.Timestamp
import StoreGate.CommandLine.Run
/-!
# The program

Reads the arguments and the file of settings, carries out the command, and prints what it gives. The
program has no way to reach the network, so no request that it sends is answered.
-/

namespace StoreGate

/-- The time at which the program began, and how long it has paused since. -/
structure Machine where
  began : Timestamp
  paused : Duration

namespace Machine

def host : Registry.Host Machine :=
  { network := fun _ => pure none
    clock :=
      { now := fun machine => machine.paused.nanoseconds
        time := Machine.began
        pause := fun time machine =>
          { machine with paused := ⟨machine.paused.nanoseconds + time.nanoseconds⟩ } }
    pageBudget := 1000000 }

def start : IO Machine := do
  let time ← Std.Time.Timestamp.now
  return ⟨⟨time.toSecondsSinceUnixEpoch.val, 0⟩, Duration.zero⟩

/-- What the system says about a file that cannot be read. -/
def describe : IO.Error → String
  | .noFileOrDirectory _ code details | .permissionDenied _ code details
  | .inappropriateType _ code details => details ++ " (os error " ++ toString code ++ ")"
  | error => toString error

def readFile (path : String) : IO (Outcome (List UInt8)) := do
  try return .ok (← IO.FS.readBinFile path).toList
  catch error => return .error (.inputOutput (describe error))

/-- Carries out what the arguments ask for, and prints what it gives. -/
def perform (invocation : CommandLine.Invocation) : IO UInt32 := do
  let file ← invocation.config.mapM fun path => do
    if invocation.isVerbose then IO.eprintln ("Loading configuration from " ++ path)
    return (path, ← readFile path)
  let nonce := Nonce.ofBytes (← IO.getRandomBytes 24).toList
  let session : Session Machine := ⟨Cache.empty, ← start⟩
  match ((CommandLine.run host nonce file invocation.command).run session).1 with
  | .ok text =>
    IO.println text
    return 0
  | .error (.trouble met) =>
    IO.eprintln met.text
    return 1
  | .error .overflow =>
    IO.eprintln "attempt to add with overflow"
    return 101

end Machine

end StoreGate

def main (arguments : List String) : IO UInt32 := do
  match StoreGate.CommandLine.parse arguments with
  | .ok invocation => StoreGate.Machine.perform invocation
  | .error .misuse =>
    IO.eprintln StoreGate.CommandLine.usage
    return 2
  | .error .help =>
    IO.println StoreGate.CommandLine.usage
    return 0
  | .error .version =>
    IO.println StoreGate.CommandLine.versionText
    return 0
