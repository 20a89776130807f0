import LspRelay.Program

open LspRelay

def main (args : List String) : IO UInt32 := do
  let env : Environment :=
    ⟨← IO.getEnv CommandLine.variableName, ← IO.getEnv Log.variableName⟩
  let input ← (← IO.getStdin).readBinToEnd
  let run := runProgram args env input.toList
  (← IO.getStdout).write ⟨run.output.toArray⟩
  (← IO.getStderr).write ⟨run.errors.toArray⟩
  return run.code.toUInt32
