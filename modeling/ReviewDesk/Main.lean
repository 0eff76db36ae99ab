import ReviewDesk.Program

/-!
The command line of the desk. No server is reached from here: every request fails as if the network
were down.
-/

namespace ReviewDesk

/-- The variables of the environment that options fall back to. -/
def environment : IO (List (String × String)) := do
  let names := CommandLine.Key.all.filterMap CommandLine.Key.variableName?
  let values ← names.mapM fun name => do return (name, ← IO.getEnv name)
  return values.filterMap fun (name, value) => value.map ((name, ·))

end ReviewDesk

def main (arguments : List String) : IO UInt32 := do
  let env ← ReviewDesk.environment
  let ending := ReviewDesk.Program.run env arguments ReviewDesk.Http.unreachable {} "now"
  let (code, stdout, stderr) := ending.result
  IO.print stdout
  IO.eprint stderr
  return code
