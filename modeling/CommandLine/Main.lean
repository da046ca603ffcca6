import CommandLine.Greeting

open CommandLine

def main (args : List String) : IO UInt32 := do
  let output := Greeting.greet args
  IO.print output.stdout
  IO.eprint output.stderr
  return output.status.toUInt32
