import Concord.Unicode.Hidden

/-!
# Quoted text

A text between quotes, written so that every character of it can be seen.  The quote and the
backslash are escaped, four controls have letters of their own, and a hidden character is written by
its code point.  Which characters count as hidden is a parameter.
-/

namespace Concord.Text

/-- A code point in hexadecimal, with small letters and no leading zeros. -/
def hexadecimal (point : Nat) : List Char :=
  Nat.toDigits 16 point

/-- The written form of one character between quotes. -/
def escapeChar (hidden : Char → Bool) (c : Char) : List Char :=
  if c = '\x00' then ['\\', '0']
  else if c = '\t' then ['\\', 't']
  else if c = '\r' then ['\\', 'r']
  else if c = '\n' then ['\\', 'n']
  else if c = '"' then ['\\', '"']
  else if c = '\\' then ['\\', '\\']
  else if hidden c then ['\\', 'u', '\x7b'] ++ hexadecimal c.toNat ++ ['\x7d']
  else [c]

/-- A text between quotes, its characters escaped. -/
def quoteWith (hidden : Char → Bool) (text : String) : String :=
  String.ofList ('"' :: text.toList.flatMap (escapeChar hidden) ++ ['"'])

/-- A text between quotes, with every character in sight. -/
def quote (text : String) : String :=
  quoteWith Unicode.isHidden text

end Concord.Text
