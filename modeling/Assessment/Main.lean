import Assessment.Command

/-!
# The command line

Reads standard input, runs the command that the arguments name, and prints its answer. The exit
code tells whether the answer is favourable.
-/

namespace Assessment

/-- Print an error. -/
def refuse (message : String) : IO UInt32 := do
  (← IO.getStderr).putStrLn message
  return 1

end Assessment

open Assessment

/-- Run the command that the arguments name. -/
def main (arguments : List String) : IO UInt32 := do
  match Command.ofArguments? arguments with
  | none => refuse Command.usage
  | some command =>
    match command.execute (← (← IO.getStdin).readToEnd) with
    | .ok answer =>
      IO.println answer.text
      return if answer.accepted then 0 else 1
    | .error error => refuse error.message
