import FeatureGates.Text.Printable

/-!
# Quoted text

A text is written between single quotes, or between double quotes if it
holds a single one and no double one. The backslash and the enclosing
quote are escaped; so are line ends, tabs and every character without a
printed form, by its code in the shortest of three widths.
-/

namespace FeatureGates.Text

/-- Hexadecimal digits of a number, padded with zeros to a width. -/
def hexDigits (width n : Nat) : List Char :=
  let digits := Nat.toDigits 16 n
  List.replicate (width - digits.length) '0' ++ digits

/-- The escaped form of a character without a printed form. -/
def escapeCode (code : Nat) : List Char :=
  if code < 0x100 then '\\' :: 'x' :: hexDigits 2 code
  else if code < 0x10000 then '\\' :: 'u' :: hexDigits 4 code
  else '\\' :: 'U' :: hexDigits 8 code

def quoteChar (quote c : Char) : List Char :=
  if c = quote || c = '\\' then ['\\', c]
  else if c = '\n' then ['\\', 'n']
  else if c = '\r' then ['\\', 'r']
  else if c = '\t' then ['\\', 't']
  else if isPrintable c then [c]
  else escapeCode c.toNat

/-- The quote that encloses a text. -/
def quoteFor (cs : List Char) : Char :=
  if cs.contains '\'' && !cs.contains '"' then '"' else '\''

def quoted (s : String) : String :=
  let quote := quoteFor s.toList
  String.ofList (quote :: s.toList.flatMap (quoteChar quote) ++ [quote])

example : quoted "it" = "'it'" := by cbv
example : quoted "it's" = "\"it's\"" := by cbv
example : quoted "a\\\n" = "'a\\\\\\n'" := by cbv

end FeatureGates.Text
