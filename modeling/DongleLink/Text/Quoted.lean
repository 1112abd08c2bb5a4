import DongleLink.Text.Plain

/-!
# DongleLink.Text.Quoted

Texts between double quotes, as diagnostics show them.  Quotes, backslashes and
the common controls take a two-character escape, and every other character that
is not plain is written by its code point in hexadecimal.
-/

namespace DongleLink.Text

/-- One character inside the quotes. -/
def quotedChar (c : Char) : List Char :=
  if c = '\x00' then ['\\', '0']
  else if c = '\t' then ['\\', 't']
  else if c = '\r' then ['\\', 'r']
  else if c = '\n' then ['\\', 'n']
  else if c = '\\' then ['\\', '\\']
  else if c = '"' then ['\\', '"']
  else if isPlain c then [c]
  else ['\\', 'u', '{'] ++ Nat.toDigits 16 c.toNat ++ ['}']

/-- A text between double quotes. -/
def quoted (s : String) : String :=
  String.ofList (['"'] ++ s.toList.flatMap quotedChar ++ ['"'])

/-- The name of a file between double quotes; apostrophes are escaped too. -/
def quotedName (s : String) : String :=
  let shown (c : Char) : List Char := if c = '\'' then ['\\', '\''] else quotedChar c
  String.ofList (['"'] ++ s.toList.flatMap shown ++ ['"'])

end DongleLink.Text
