import ChainFlow.Text.Digit
import ChainFlow.Text.Printable
import ChainFlow.Text.Surrogate

/-!
# Quoted text

A quoted text stands between single quotes, or between double quotes if it holds a single quote and
no double quote. Inside, the quote in use and the backslash are escaped, and characters that are
not printable are written by their code.
-/

namespace ChainFlow.Text

def quoteMark (text : List Char) : Char :=
  if text.contains '\'' && !text.contains '"' then '"' else '\''

def codeEscape (c : Char) : List Char :=
  let code := codePoint c
  if code < 0x100 then '\\' :: 'x' :: hex 2 code
  else if code < 0x10000 then '\\' :: 'u' :: hex 4 code
  else '\\' :: 'U' :: hex 8 code

def quotedChar (mark c : Char) : List Char :=
  if c = mark ∨ c = '\\' then ['\\', c]
  else if c = '\t' then ['\\', 't']
  else if c = '\n' then ['\\', 'n']
  else if c = '\r' then ['\\', 'r']
  else if isPrintable c then [c]
  else codeEscape c

def quoted (text : List Char) : List Char :=
  let mark := quoteMark text
  mark :: text.flatMap (quotedChar mark) ++ [mark]

end ChainFlow.Text
