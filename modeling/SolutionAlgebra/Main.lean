import Std.Time.DateTime.Timestamp
import SolutionAlgebra.CommandLine.Run

/-! # The program

Runs the command line on the files, the clock and the chance of the machine. -/

namespace SolutionAlgebra.CommandLine

/-- The reason why a file cannot be read, in words. -/
def fileReason : IO.Error → String
  | .noFileOrDirectory _ code details | .permissionDenied (some _) code details
  | .inappropriateType (some _) code details | .invalidArgument (some _) code details =>
    details ++ " (os error " ++ toString code ++ ")"
  | fault => toString fault

/-- Reads a file of the machine. -/
def readFile (file : String) : IO (Except String String) := do
  match ← (IO.FS.readBinFile file).toBaseIO with
  | .error fault => return .error (fileReason fault)
  | .ok bytes =>
    match String.fromUTF8? bytes with
    | some text => return .ok text
    | none => return .error "stream did not contain valid UTF-8"

/-- What an evaluation takes from the machine: the time in universal time, and a number drawn for
the whole run. -/
def ambient : IO Ambient := do
  let nanos := (← Std.Time.Timestamp.now).toNanosecondsSinceUnixEpoch.val
  let seed ← IO.rand 0 (Nat.pow 2 62)
  let second : Int := Calendar.secondNanos
  return Ambient.seeded ⟨nanos / second, (nanos % second).toNat, 0⟩ (toString seed)

end SolutionAlgebra.CommandLine

open SolutionAlgebra.CommandLine in
/-- Runs the program with its arguments. -/
def main (arguments : List String) : IO UInt32 := do
  let ending ← run readFile (← ambient) arguments
  (← IO.getStdout).putStr ending.output
  if !ending.complaint.isEmpty then (← IO.getStderr).putStrLn ending.complaint
  return ending.code.toUInt32
