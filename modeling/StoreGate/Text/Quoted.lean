import StoreGate.Text.Hidden
/-!
# Quoted text for people

A text between double quotes, in which quotes, backslashes and characters that do not show are
written as escapes.
-/

namespace StoreGate.Text

/-- How a character is written between the quotes. -/
def quotedChar (char : Char) : List Char :=
  if char = '\x00' then ['\\', '0']
  else if char = '\t' then ['\\', 't']
  else if char = '\n' then ['\\', 'n']
  else if char = '\r' then ['\\', 'r']
  else if char = '"' then ['\\', '"']
  else if char = '\\' then ['\\', '\\']
  else if char.toNat < 0x20 || char.toNat = 0x7f || isHidden char then
    ['\\', 'u', '\x7b'] ++ Nat.toDigits 16 char.toNat ++ ['\x7d']
  else [char]

/-- A text between quotes. -/
def quoted (text : String) : List Char :=
  '"' :: (text.toList.flatMap quotedChar ++ ['"'])

end StoreGate.Text
