import GoStubs.Plugin.CommandLine
/-!
# The program

Reads the input, lets the plugin decide what to do and carries it out.
-/

open GoStubs.Plugin

/-- Reads a stream to its end. -/
partial def GoStubs.readAll (stream : IO.FS.Stream) (sofar : ByteArray) : IO ByteArray := do
  let chunk ← stream.read 65536
  if chunk.isEmpty then return sofar
  else GoStubs.readAll stream (sofar ++ chunk)

def main (args : List String) : IO UInt32 := do
  let input ←
    if Command.parse? args = some .answer then
      GoStubs.readAll (← IO.getStdin) ByteArray.empty
    else pure ByteArray.empty
  let execution := execute args input.data.toList
  for message in execution.messages do
    IO.eprintln message
  let stdout ← IO.getStdout
  stdout.write ⟨execution.output.toArray⟩
  stdout.flush
  return UInt32.ofNat execution.exitCode
