import NumericWire.Command.Line
/-!
# NumericWire.Main

The program: hands arguments and environment to `Command.Line.answer` and prints what
comes back.
-/

namespace NumericWire

/-- The variables that settings are read from, as they are set for this process. -/
def Environment.ofProcess : IO Environment := do
  let encodeNan ← IO.getEnv encodeNanName
  let maxScale ← IO.getEnv maxScaleName
  return ⟨encodeNan, maxScale⟩

end NumericWire

open NumericWire

/-- Answers the arguments, and ends with the status of the answer. -/
def main (arguments : List String) : IO UInt32 := do
  let answer := Command.Line.answer .late (← Environment.ofProcess) arguments
  for remark in answer.remarks do
    IO.eprintln remark.text
  IO.print answer.output
  return UInt32.ofNat answer.status
