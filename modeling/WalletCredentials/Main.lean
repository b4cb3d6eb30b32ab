import Std.Time.DateTime.Timestamp
import WalletCredentials.CommandLine.Commands

/-!
# The program

The program reads its command line, asks the machine for the time and for randomness,
and writes what the command reports. All decisions are made by the commands.
-/

namespace WalletCredentials.CommandLine

/-- The second that the clock of the machine shows. -/
def currentSecond : IO Timestamp := do
  let moment ← Std.Time.Timestamp.now
  match Timestamp.ofUnix? moment.toSecondsSinceUnixEpoch.val false with
  | some now => return now
  | none => throw (IO.userError "the clock is out of range")

/-- A key pair from the randomness of the machine. -/
def freshKeyPair : IO Ed25519.KeyPair := do
  let seed ← IO.getRandomBytes 32
  match Ed25519.KeyPair.ofSeed seed.toList with
  | .ok pair => return pair
  | .error fault => throw (IO.userError fault.message)

/-- Writes what a command reports: its file, then its lines. -/
def Report.write (report : Report) : IO UInt32 := do
  if let some (path, text) := report.file then
    try IO.FS.writeFile path text
    catch e =>
      IO.eprintln ("failed to write key: " ++ path ++ ": " ++ e.toString)
      return 1
  IO.print report.output
  IO.eprint report.notes
  return report.exitCode.toUInt32

/-- The lines of the help. -/
def helpText : String :=
  "Usage:\n" ++
  "  token mint --secret <SECRET> [--id <ID>] [--base-url <BASE_URL>] [--ttl <TTL>]\n" ++
  "  token check --secret <SECRET> [--at <AT>] <URL>\n" ++
  "  key generate [-o, --output <OUTPUT>]"

/-- Answers a command line that is not run. -/
def UsageFault.write (fault : UsageFault) : IO UInt32 := do
  if fault = .help then
    IO.println helpText
    return 0
  IO.eprintln fault.name
  IO.eprintln helpText
  return 2

end WalletCredentials.CommandLine

open WalletCredentials.CommandLine in
/-- Runs the command that the arguments name. -/
def main (args : List String) : IO UInt32 := do
  match readInvocation args with
  | .error fault => fault.write
  | .ok invocation =>
      match run (← currentSecond) (← freshKeyPair) invocation with
      | .error fault =>
          IO.eprintln fault.message
          return 1
      | .ok report => report.write
