import RoomCall.Tool.Run
import Std.Time.DateTime.Timestamp

/-!
# The command line

The program collects what a run of the tool needs from the system, prints what the run leaves, and
ends with its exit code.
-/

namespace RoomCall.Tool

/-- The text of a file, if there is such a file and it can be read. -/
def readFile? (file : String) : IO (Option String) := do
  try
    return some (← IO.FS.readFile file)
  catch _ =>
    return none

/-- The number that some bytes write in base 256. -/
def numberOf (bytes : List UInt8) : Nat :=
  bytes.foldl (fun number byte => 256 * number + byte.toNat) 0

/-- A supply of names from random bytes. -/
def supplyOf (bytes : ByteArray) : Supply where
  text index := uniqueId (numberOf ((bytes.toList.drop (16 * index)).take 16) + index)

/-- Supplies for one device from the system's source of randomness. -/
def drawSupplies : IO Supplies := do
  return {
    callTokens := supplyOf (← IO.getRandomBytes 1024)
    partyNames := supplyOf (← IO.getRandomBytes 1024)
    streamNames := supplyOf (← IO.getRandomBytes 1024) }

/-- Prints what a run leaves. -/
def Outcome.print (outcome : Outcome) : IO Unit := do
  for line in outcome.lines do
    IO.println line
  for (event, error) in outcome.failures do
    IO.eprintln ("❌ " ++ event.text ++ ": " ++ error.message)
  if let some verdict := outcome.verdict then
    IO.eprintln verdict
  if outcome.misused then
    IO.eprintln "error: the arguments do not fit, try '--help'"

end RoomCall.Tool

/-- Runs the tool. -/
def main (arguments : List String) : IO UInt32 := do
  let settingsFile ← IO.getEnv RoomCall.Tool.settingsVariable
  let files := match RoomCall.Tool.readArguments settingsFile none none arguments with
    | .ok plan => plan.files
    | .error _ => []
  let texts ← files.mapM fun file => return (file, ← RoomCall.Tool.readFile? file)
  let now ← Std.Time.Timestamp.now
  let surroundings : RoomCall.Tool.Surroundings := {
    settingsFile := settingsFile
    read := fun file => (texts.lookup file).bind id
    now := now.toNanosecondsSinceUnixEpoch.val
    callerSupplies := ← RoomCall.Tool.drawSupplies
    calleeSupplies := ← RoomCall.Tool.drawSupplies }
  let outcome := RoomCall.Tool.run surroundings arguments
  outcome.print
  return outcome.exitCode.toUInt32
