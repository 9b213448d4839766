import OverlaySheet.Number.Hex

/-! Colours: four channels of eight bits, written in hex digits or by name. -/

namespace OverlaySheet

/-- A colour: alpha, red, green and blue from the highest byte to the lowest. -/
structure Color where
  argb : UInt32
deriving DecidableEq

namespace Color

/-- The colours that have a name. -/
def named : List (String × Color) :=
  [("transparent", ⟨0x00000000⟩), ("black", ⟨0xFF000000⟩), ("white", ⟨0xFFFFFFFF⟩),
    ("gray", ⟨0xFF888888⟩), ("red", ⟨0xFFFF0000⟩), ("green", ⟨0xFF00FF00⟩),
    ("blue", ⟨0xFF0000FF⟩), ("yellow", ⟨0xFFFFFF00⟩), ("cyan", ⟨0xFF00FFFF⟩),
    ("magenta", ⟨0xFFFF00FF⟩)]

/-- How opaque the colour is. -/
def alpha (color : Color) : UInt8 :=
  (color.argb >>> 24).toUInt8

/-- The red part. -/
def red (color : Color) : UInt8 :=
  (color.argb >>> 16).toUInt8

/-- The green part. -/
def green (color : Color) : UInt8 :=
  (color.argb >>> 8).toUInt8

/-- The blue part. -/
def blue (color : Color) : UInt8 :=
  color.argb.toUInt8

/-- Each digit twice. -/
def double (digits : Text) : Text :=
  digits.flatMap fun digit => [digit, digit]

/-- All eight digits: short forms double theirs, and forms without alpha are opaque. -/
def expand? (digits : Text) : Option Text :=
  match digits.length with
  | 3 => some (double ('f' :: digits))
  | 4 => some (double digits)
  | 6 => some ('f' :: 'f' :: digits)
  | 8 => some digits
  | _ => none

/-- The colour that hex digits denote. -/
def ofHex? (digits : Text) : Option Color :=
  (expand? digits).bind fun digits =>
    (Hex.value? digits).map fun value => ⟨UInt32.ofNat value⟩

/-- The colour with a name, in any case. -/
def ofName? (name : Text) : Option Color :=
  (named.find? fun entry => Text.sameIgnoringCase entry.1.toList name).map (·.2)

/-- The colour that a text denotes, blanks around it apart. -/
def read? (text : String) : Option Color :=
  match Text.trim text.toList with
  | '#' :: digits => ofHex? digits
  | name => ofName? name

/-- What is said about a text that is no colour. -/
def invalidMessage (text : String) : String :=
  s!"invalid color '{text}', expected #RGB, #ARGB, #RRGGBB, #AARRGGBB or a color name"

/-- A colour as text: a hash and eight upper-case hex digits. -/
def write (color : Color) : Text :=
  '#' :: Hex.write 8 color.argb.toNat

end Color

end OverlaySheet
