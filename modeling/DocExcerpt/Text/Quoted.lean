import DocExcerpt.Text.Visible

/-!
# Quoted text in messages

A text as a message shows it: between double quotes, with a backslash before quotes and
backslashes, short names for common controls, and code points for all else that cannot be seen.
-/

namespace DocExcerpt.Text

def hexDigits (c : Char) : Text := Nat.toDigits 16 c.toNat

def quotedChar (c : Char) : Text :=
  if c = '\x00' then ['\\', '0']
  else if c = '\t' then ['\\', 't']
  else if c = '\r' then ['\\', 'r']
  else if c = '\n' then ['\\', 'n']
  else if c = '"' ∨ c = '\\' then ['\\', c]
  else if isVisible c then [c]
  else ['\\', 'u', '{'] ++ hexDigits c ++ ['}']

def quoted (t : Text) : Text := '"' :: t.flatMap quotedChar ++ ['"']

end DocExcerpt.Text
