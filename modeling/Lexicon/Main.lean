import Lexicon.CommandLine

namespace Lexicon.Program

/-- The file of a name. A directory is told by a name inside of it. -/
def find (name : String) : IO Files := do
  try
    return [(name, ← IO.FS.readBinFile name)]
  catch
    | .inappropriateType .. => return [(name ++ "/", ByteArray.empty)]
    | _ => return []

partial def readAll (input : IO.FS.Stream) (done : ByteArray) : IO ByteArray := do
  let more ← input.read 65536
  if more.isEmpty then return done else readAll input (done ++ more)

def gather (args : List String) : IO (Files × ByteArray) := do
  match CommandLine.parse args with
  | .error _ => return ([], ByteArray.empty)
  | .ok i =>
    let files ← i.files.mapM find
    let input ← if i.readsInput then readAll (← IO.getStdin) ByteArray.empty
      else pure ByteArray.empty
    return (files.flatten, input)

end Lexicon.Program

open Lexicon in
def main (args : List String) : IO UInt32 := do
  let (files, input) ← Program.gather args
  let o := CommandLine.run Bundled.registry files input args
  IO.print o.stdout
  (← IO.getStdout).flush
  if o.code = 2 then IO.eprint CommandLine.usage
  if let some m := o.message then IO.eprintln s!"Error: {m}"
  return o.code.toUInt32
