import TypedSum.CommandLine

/-! The program: the outcome of its arguments, written to the standard streams. -/

namespace TypedSum.CommandLine

/-- Writes bytes to a stream and tells whether it took them. -/
def deliver (stream : IO.FS.Stream) (bytes : List UInt8) : IO Bool := do
  try
    stream.write ⟨bytes.toArray⟩
    stream.flush
    return true
  catch _ => return false

/-- A stream that does not take the output is a full device.  Logs are written without any text, and
arguments come as texts already. -/
def start (args : List String) : IO UInt32 := do
  let log ← IO.getEnv "RUST_LOG"
  let tree ← IO.getEnv "TYEX_LOG_TREE"
  let lookup name := ([("RUST_LOG", log), ("TYEX_LOG_TREE", tree)].lookup name).join
  let carryOut := runLogged (fun _ _ _ => "") lookup (args.map Text.bytes)
  let outcome := carryOut .writable
  let taken ← deliver (← IO.getStdout) outcome.stdout
  let outcome := if taken then outcome else carryOut .full
  (← IO.getStderr).putStr outcome.stderr
  return outcome.exit.toUInt32

end TypedSum.CommandLine

def main (args : List String) : IO UInt32 := TypedSum.CommandLine.start args
