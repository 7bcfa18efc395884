import TagFilter.Program

namespace TagFilter.Program

def readVariable (name : String) : IO (Option RawText) := do
  return (← IO.getEnv name).map fun value => RawText.ofText value.toList

def present (outcome : Outcome) : IO UInt32 := do
  if let some error := outcome.usageError? then
    IO.eprintln (String.ofList error.headline)
  for record in outcome.log do
    IO.eprintln (String.ofList record.render)
  let stdout ← IO.getStdout
  stdout.write ⟨outcome.stdout.accepted.toArray⟩
  stdout.flush
  return UInt32.ofNat outcome.status

end TagFilter.Program

def main (arguments : List String) : IO UInt32 := do
  let level? ← TagFilter.Program.readVariable TagFilter.Environment.levelVariable
  let expressions? ← TagFilter.Program.readVariable TagFilter.Environment.expressionsVariable
  TagFilter.Program.present <|
    TagFilter.Program.run (arguments.map fun argument => TagFilter.RawText.ofText argument.toList)
      { level?, expressions? }
