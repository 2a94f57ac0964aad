import DspInspector.Text.Escaped
import DspInspector.Text.Hex

/-!
# Quoted text

File names in messages stand between double quotes. Quotes of both kinds, backslashes and characters
that do not show up are escaped, so that the message says exactly which file is meant.
-/

namespace DspInspector.Text

/-- One character between quotes. -/
def quotedChar (c : Char) : List Char :=
  if c = '\x00' then ['\\', '0']
  else if c = '\t' then ['\\', 't']
  else if c = '\r' then ['\\', 'r']
  else if c = '\n' then ['\\', 'n']
  else if c = '\\' || c = '"' || c = '\'' then ['\\', c]
  else if isHidden c then
    ['\\', 'u', '\x7b'] ++ hexPadded false (hexWidth 16 c.toNat) c.toNat ++ ['\x7d']
  else [c]

/-- A text between quotes. -/
def quoted (text : String) : String :=
  String.ofList ('"' :: text.toList.flatMap quotedChar ++ ['"'])

end DspInspector.Text
