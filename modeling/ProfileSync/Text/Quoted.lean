/-
  Quoted text: how a name or a path stands in a message.

  A quoted text is between double quotes; a double quote and a backslash
  inside it follow a backslash, a line break, a carriage return, a tab and a
  null character have a letter of their own after it (`0` for the null
  character), and any other hidden character is its code in hexadecimal, as
  `\u{..}`.
-/
import ProfileSync.Text.Shown

namespace ProfileSync

/-- A character of a quoted text. -/
def quoteChar (c : Char) : List Char :=
  if c = '\x22' ∨ c = '\\' then ['\\', c]
  else if c = '\n' then ['\\', 'n']
  else if c = '\r' then ['\\', 'r']
  else if c = '\t' then ['\\', 't']
  else if c = '\x00' then ['\\', '0']
  else if isShown c then [c]
  else ['\\', 'u', '\x7b'] ++ hexDigits c.toNat ++ ['\x7d']

/-- A quoted text, as characters. -/
def quoteChars (cs : List Char) : List Char :=
  '\x22' :: cs.flatMap quoteChar ++ ['\x22']

/-- A quoted text. -/
def quoted (s : String) : String :=
  String.ofList (quoteChars s.toList)

end ProfileSync
