import RealMode.Text.Hidden

/-!
# Quoted text in messages

Text between double quotes. Quotes, backslashes and the common control characters are written as
two-character escapes; every other character that would not be visible on its own is
written as its code point in braces.
-/

namespace RealMode.Text.Quoted

def escape (c : Char) : List Char :=
  match c with
  | '"' => ['\\', '"']
  | '\\' => ['\\', '\\']
  | '\n' => ['\\', 'n']
  | '\r' => ['\\', 'r']
  | '\t' => ['\\', 't']
  | '\x00' => ['\\', '0']
  | c => if isHidden c then '\\' :: 'u' :: '{' :: (Nat.toDigits 16 c.toNat ++ ['}']) else [c]

def quote (s : String) : String :=
  String.ofList ('"' :: (s.toList.flatMap escape ++ ['"']))

end RealMode.Text.Quoted
