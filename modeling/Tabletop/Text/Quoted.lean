import Tabletop.Text.Printable

/-!
Quoted text, as error messages show a value: single quotes unless the text holds one and no double
quote; the quote in use and the backslash are escaped, line feed, carriage return and tab by name,
other characters without a visible form by code.
-/

namespace Tabletop.Text

/-- The hexadecimal digits of a number, at least so many. -/
def hexDigits (least : Nat) (code : Nat) : List Char :=
  let digits := Nat.toDigits 16 code
  List.replicate (least - digits.length) '0' ++ digits

/-- The quote around a text. -/
def quoteFor (text : List Char) : Char :=
  if text.contains '\'' && !text.contains '"' then '"' else '\''

/-- One character inside quotes. -/
def quotedChar (quote c : Char) : List Char :=
  if c = quote || c = '\\' then ['\\', c]
  else if c = '\n' then ['\\', 'n']
  else if c = '\r' then ['\\', 'r']
  else if c = '\t' then ['\\', 't']
  else if isPrintable c then [c]
  else if c.toNat < 0x100 then '\\' :: 'x' :: hexDigits 2 c.toNat
  else if c.toNat < 0x10000 then '\\' :: 'u' :: hexDigits 4 c.toNat
  else '\\' :: 'U' :: hexDigits 8 c.toNat

/-- A text in quotes. -/
def quoted (text : List Char) : List Char :=
  let quote := quoteFor text
  quote :: text.flatMap (quotedChar quote) ++ [quote]

end Tabletop.Text
