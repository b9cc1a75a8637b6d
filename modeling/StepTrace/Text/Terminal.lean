import StepTrace.Text.Hex

set_option autoImplicit false

namespace StepTrace.Text

-- The escape of a character that could steer a terminal; line ends, tabs and all other characters
-- are left as they are.
def terminalChar : Char → List Char
  | '\x07' => ['\\', 'x', '0', '7']
  | '\x08' => ['\\', 'x', '0', '8']
  | '\x0c' => ['\\', 'x', '0', 'c']
  | '\x1b' => ['\\', 'x', '1', 'b']
  | '\x7f' => ['\\', 'x', '7', 'f']
  | c => if 0x80 ≤ c.toNat ∧ c.toNat ≤ 0x9F then codeEscape c else [c]

def forTerminal (s : String) : String :=
  String.ofList (s.toList.flatMap terminalChar)

end StepTrace.Text
