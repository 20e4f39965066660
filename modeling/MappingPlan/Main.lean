import MappingPlan.Dump

/-!
# The command line

Reads the file that the arguments name, if they name one, and prints the dump.  A
failure goes to the error stream, with exit code 1.
-/

namespace MappingPlan.Dump

def readMappingFile (path : String) : IO (Except AccessFault ByteArray) := do
  try
    return .ok (← IO.FS.readBinFile path)
  catch fault =>
    return .error (.other (toString fault))

def command (arguments : List String) : IO UInt32 := do
  let content ←
    match arguments with
    | [file, _] => readMappingFile file
    | _ => pure (.error .notFound)
  match run (fun _ => content) arguments with
  | .ok text =>
      IO.print text
      return 0
  | .error error =>
      IO.eprintln error.message
      return 1

end MappingPlan.Dump

def main (arguments : List String) : IO UInt32 :=
  MappingPlan.Dump.command arguments
