import OverlaySheet.Command

/-! The command line program, which reads files and prints the command's answer. -/

namespace OverlaySheet.Command

/-- The number of a system error, which may come with its sign turned. -/
def errorNumber (code : UInt32) : Nat :=
  min code.toNat (-code).toNat

/-- What a path leads to whose file could not be read. -/
def contentOfError (error : IO.Error) : FileContent :=
  match error with
  | .noFileOrDirectory _ code text => .refused (.ofNumber (errorNumber code) text)
  | .permissionDenied _ code text => .refused (.ofNumber (errorNumber code) text)
  | .invalidArgument _ code text => .refused (.ofNumber (errorNumber code) text)
  | .inappropriateType _ code text =>
    let failure := FileFailure.ofNumber (errorNumber code) text
    if failure = .isDirectory then .directory else .refused failure
  | _ => .refused .inputOutput

/-- Reads a file. -/
def readFile (path : String) : IO FileContent := do
  try
    let content ← IO.FS.readBinFile path
    return .bytes content.toList
  catch error => return contentOfError error

/-- Reads a stream to its end. -/
partial def readAll (stream : IO.FS.Stream) (sofar : ByteArray) : IO ByteArray := do
  let more ← stream.read 65536
  if more.isEmpty then return sofar else readAll stream (sofar ++ more)

/-- Reads the standard input. -/
def readInput : IO Bytes := do
  let content ← readAll (← IO.getStdin) .empty
  return content.toList

/-- Gathers what a command reads. -/
def gather (invocation : Invocation) : IO Surroundings := do
  let contents ← invocation.files.mapM fun path => do return (path, ← readFile path)
  let input ← if invocation.readsInput then readInput else pure []
  return { file := fun path => (contents.lookup path).getD (.refused .noSuchFile), input }

/-- Reads what a command line needs and answers it. -/
def run (arguments : List String) : IO Answer := do
  match parse arguments with
  | .ok invocation => return carryOut (← gather invocation) invocation
  | .error stop => return stopped stop

end OverlaySheet.Command

/-- Carries out the command line and gives its exit code. -/
def main (arguments : List String) : IO UInt32 := do
  let result ← OverlaySheet.Command.run arguments
  IO.print result.output
  IO.eprint result.errors
  return UInt32.ofNat result.exit
