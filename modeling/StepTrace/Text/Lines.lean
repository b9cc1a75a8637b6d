import StepTrace.Text.Cut

set_option autoImplicit false

namespace StepTrace.Text

-- One line of a stream with its line end, or `none` where its bytes are not UTF-8.
abbrev Line := Option String

def newlineByte : UInt8 := 0x0A

def decodeBytes (bytes : List UInt8) : Option String :=
  String.fromUTF8? ⟨bytes.toArray⟩

def linesOf (bytes : ByteArray) : List Line :=
  (piecesAfter newlineByte bytes.data.toList).map decodeBytes

end StepTrace.Text
