import Reckoner.Command.Run

/-!
# The program

Writes the output of the command line, and leaves with its code.  Arguments
that make no request are reported with code two, information is given with code
zero.
-/

open Reckoner.Command

def main (arguments : List String) : IO UInt32 := do
  match run arguments with
  | .ok output =>
    (← IO.getStdout).putStr output.printed
    (← IO.getStderr).putStr output.reported
    return output.code.toUInt32
  | .error fault =>
    if fault.code = 0 then
      (← IO.getStdout).putStr (fault.message ++ "\n")
    else
      (← IO.getStderr).putStr ("error: " ++ fault.message ++ "\n")
    return fault.code.toUInt32
