import WorkDepot.Text.GraphemeExtend
import WorkDepot.Text.Number
import WorkDepot.Text.Printable

/-!
# Quoted text

Text in messages stands between quotes. A few characters are escaped by a letter; those that cannot
be seen, or only on the character before them, by their code point.
-/
namespace WorkDepot.Text

def escapeForMessage (c : Char) : Text :=
  if c = '\x00' then ['\\', '0']
  else if c = '\t' then ['\\', 't']
  else if c = '\r' then ['\\', 'r']
  else if c = '\n' then ['\\', 'n']
  else if c = '"' then ['\\', '"']
  else if c = '\\' then ['\\', '\\']
  else if extendsGrapheme c || !isPrintable c then
    "\\u\x7b".toList ++ hexadecimal c.toNat ++ ['\x7d']
  else [c]

def quoted (text : Text) : Text := '"' :: text.flatMap escapeForMessage ++ ['"']

end WorkDepot.Text
