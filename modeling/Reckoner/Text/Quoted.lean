import Reckoner.Character.Printable

namespace Reckoner
namespace Quoted

/-!
# Quoted text

A quoted text stands between double quotes and shows every character it has.
Printable characters stand as they are, with a backslash before the quote and
the backslash itself.  Four controls have a letter of their own, and any other
character that is not printable is written as its code point in hexadecimal
digits between braces.
-/

/-- A character that is not printable, by its code point. -/
def byCode (c : Char) : List Char :=
  ['\\', 'u', '\x7b'] ++ Nat.toDigits 16 c.toNat ++ ['\x7d']

def character (c : Char) : List Char :=
  if c = '"' then ['\\', '"']
  else if c = '\\' then ['\\', '\\']
  else if c = '\t' then ['\\', 't']
  else if c = '\n' then ['\\', 'n']
  else if c = '\r' then ['\\', 'r']
  else if c.toNat = 0 then ['\\', '0']
  else if isPrintable c then [c]
  else byCode c

def text (s : String) : String :=
  String.ofList (['"'] ++ s.toList.flatMap character ++ ['"'])

example : text "a\"b\\\t" = "\"a\\\"b\\\\\\t\"" := by decide +kernel

end Quoted
end Reckoner
