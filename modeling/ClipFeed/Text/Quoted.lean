import ClipFeed.Text.Class
/-!
Quoted text for diagnostics: between double quotes, with quotes and backslashes escaped, common
controls by letter and everything that would not show as a code point in hexadecimal.
-/

namespace ClipFeed.Text.Quoted

def codePoint (n : Nat) : List Char :=
  ['\\', 'u', '\x7b'] ++ Nat.toDigits 16 n ++ ['\x7d']

def encodeChar (c : Char) : List Char :=
  if c = '"' then ['\\', '"']
  else if c = '\\' then ['\\', '\\']
  else if c = '\n' then ['\\', 'n']
  else if c = '\r' then ['\\', 'r']
  else if c = '\t' then ['\\', 't']
  else if c.toNat = 0 then ['\\', '0']
  else if (0x20 ≤ c.toNat && c.toNat < 0x7F) || isShown c then [c]
  else codePoint c.toNat

def encode (s : String) : String :=
  String.ofList ('"' :: s.toList.flatMap encodeChar ++ ['"'])

def encodeList (ss : List String) : String :=
  "[" ++ String.intercalate ", " (ss.map encode) ++ "]"

end ClipFeed.Text.Quoted
