import TypedVars.Text.Hidden

/-!
# Quoted text

Texts that belong to the user (keys, scopes, stored values) stand in messages inside double quotes,
written so that each character can be told from the others: quotes and backslashes are escaped,
the common controls have letters, and every other hidden character is written by its code point.
-/

namespace TypedVars

/-- A character inside a quoted text. -/
def quoteChar (c : Char) : List Char :=
  match c with
  | '"' => ['\\', '"']
  | '\\' => ['\\', '\\']
  | '\n' => ['\\', 'n']
  | '\r' => ['\\', 'r']
  | '\t' => ['\\', 't']
  | '\x00' => ['\\', '0']
  | c => if isHidden c then '\\' :: 'u' :: '{' :: (Nat.toDigits 16 c.toNat ++ ['}']) else [c]

/-- A text in double quotes. -/
def quote (s : String) : String :=
  String.ofList ('"' :: (s.toList.flatMap quoteChar ++ ['"']))

end TypedVars
