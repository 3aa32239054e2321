import WorkflowWalk.Text.Point

/-!
# Quoted text in JSON

A string stands between double quotes. The quote itself, the backslash and the control characters
are escaped; the ASCII form escapes the delete character and every code point beyond ASCII as well,
those beyond the basic plane as two units.
-/

namespace WorkflowWalk
namespace Json
namespace Quoted

def hex4 (n : Nat) : List Char :=
  [n / 4096 % 16, n / 256 % 16, n / 16 % 16, n % 16].map Nat.digitChar

def unit (n : Nat) : List Char :=
  ['\\', 'u'] ++ hex4 n

def escape (c : Char) : List Char :=
  if c = '"' then ['\\', '"']
  else if c = '\\' then ['\\', '\\']
  else if c = '\n' then ['\\', 'n']
  else if c = '\r' then ['\\', 'r']
  else if c = '\t' then ['\\', 't']
  else if c.toNat = 0x08 then ['\\', 'b']
  else if c.toNat = 0x0C then ['\\', 'f']
  else unit c.toNat

def isPlain (c : Char) : Bool :=
  0x20 ≤ c.toNat && c != '"' && c != '\\'

def char (c : Char) : List Char :=
  if isPlain c then [c] else escape c

def quote (text : String) : List Char :=
  '"' :: text.toList.flatMap char ++ ['"']

/-! ## ASCII -/

/-- A code point of a JSON text, escaped if it is the delete character or beyond ASCII. -/
def asciiPoint : Text.Point → List Char
  | .half half => unit half.code
  | .char c =>
      let n := c.toNat
      if n < 0x7F then [c]
      else if n < 0x10000 then unit n
      else unit (0xD800 + (n - 0x10000) / 1024) ++ unit (0xDC00 + (n - 0x10000) % 1024)

def ascii (cs : List Char) : List Char :=
  (Text.points cs).flatMap asciiPoint

end Quoted
end Json
end WorkflowWalk
