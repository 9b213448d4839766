import OverlaySheet.Sheet.Run
import OverlaySheet.Text.Utf8

/-! Sources of sheets that may break off: bytes that are read line by line. -/

namespace OverlaySheet

/-- The lines that could be read, and why there are no more if reading broke off. -/
structure Source where
  lines : List Text
  failure : Option String := none
deriving DecidableEq

namespace Source

/-- What is said about a line that is not UTF-8. -/
def notUtf8 : String := "stream did not contain valid UTF-8"

/-- Reads lines up to the first that is not UTF-8. -/
def ofByteLines : List Bytes → Source
  | [] => { lines := [] }
  | line :: rest =>
    match Utf8.decode line with
    | .ok text =>
      let source := ofByteLines rest
      { source with lines := text :: source.lines }
    | .error _ => { lines := [], failure := some notUtf8 }

/-- The source that bytes are. -/
def ofBytes (bytes : Bytes) : Source :=
  ofByteLines (byteLines bytes)

end Source

/-- The overlays that a source describes; where it breaks off, the fault has that line. -/
def Dialect.inflateSource {Layer : Type} (dialect : Dialect Layer) (source : Source) :
    Except Fault (List (Overlay Layer)) := do
  -- A fault among the lines that could be read comes before the break.
  let run ← dialect.readLines 0 dialect.start source.lines
  match source.failure with
  | none => Dialect.complete run
  | some text =>
    .error { kind := .generic, line := some source.lines.length, cause := some (.untagged text) }

end OverlaySheet
