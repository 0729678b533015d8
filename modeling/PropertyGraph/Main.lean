import PropertyGraph.Demo

/-!
# The command line

Shows the demonstration under the standard configuration, or under the one in
the file that the first argument names.
-/

namespace PropertyGraph

def bytesOf? (path : String) : IO (Option ByteArray) := do
  try
    return some (← IO.FS.readBinFile path)
  catch _ =>
    return none

def lastComponent (path : String) : String :=
  String.ofList (path.toList.reverse.takeWhile (· ≠ '/')).reverse

def configOf (arguments : List String) : IO (Except ConfigFault Config) := do
  match arguments with
  | [] => return .ok .standard
  | path :: _ => return Config.ofFile (lastComponent path) (← bytesOf? path)

end PropertyGraph

/-- Show the demonstration; the exit code tells whether it ended early. -/
def main (arguments : List String) : IO UInt32 := do
  let transcript := PropertyGraph.Demo.run (← PropertyGraph.configOf arguments)
  IO.print transcript.output
  match transcript.stop with
  | none => return 0
  | some stop =>
    IO.eprintln ("Error: " ++ stop.message)
    return 1
