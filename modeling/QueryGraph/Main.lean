import QueryGraph.Command.Run

/-!
# `Main` — the command

Carries out a run on the real system.
-/

namespace QueryGraph.Command

/-- The file error that a system error stands for. -/
def FileError.ofSystem : IO.Error → FileError
  | .noFileOrDirectory .. => .notFound
  | .inappropriateType _ 20 _ => .notDirectory
  | .inappropriateType _ 21 _ => .isDirectory
  | .invalidArgument _ 36 _ => .nameTooLong
  | .resourceExhausted _ 28 _ => .noSpace
  | e => .other (toString e)

/-- Turns a system error into a result. -/
def attempt {α : Type} (action : IO α) : IO (Except FileError α) := do
  try
    return .ok (← action)
  catch e =>
    return .error (.ofSystem e)

instance : Host IO where
  readInput := do (← IO.getStdin).readBinToEnd
  readFile path := attempt (IO.FS.readBinFile path)
  createFile path := attempt (IO.FS.writeBinFile path .empty)
  appendFile path text := attempt do
    let file ← IO.FS.Handle.mk path .append
    file.putStr text
    file.flush
  print text := do
    let out ← IO.getStdout
    out.putStr text
    out.flush
  report text := do (← IO.getStderr).putStr text
  askedFilter := IO.getEnv "RUST_LOG"

end QueryGraph.Command

/-- Runs the command and returns its exit code. -/
def main (arguments : List String) : IO UInt32 := do
  let code ← (QueryGraph.Command.run arguments : IO Nat)
  return code.toUInt32
