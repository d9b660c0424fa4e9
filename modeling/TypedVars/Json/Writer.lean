import TypedVars.Json.Basic

/-!
# JSON text

The compact text of a JSON value: no white space, members in order.  In a string the quote, the
backslash and the controls are escaped and every other character stands for itself; a number that
is not finite is written `null`.
-/

namespace TypedVars

namespace Json

/-- A digit of a code point in a `\u` escape. -/
def hexDigit (n : Nat) : Char := Nat.digitChar n

/-- A character of a string in JSON text. -/
def stringChar (c : Char) : List Char :=
  match c with
  | '"' => ['\\', '"']
  | '\\' => ['\\', '\\']
  | '\x08' => ['\\', 'b']
  | '\x0c' => ['\\', 'f']
  | '\n' => ['\\', 'n']
  | '\r' => ['\\', 'r']
  | '\t' => ['\\', 't']
  | c =>
    if c.toNat < 0x20 then ['\\', 'u', '0', '0', hexDigit (c.toNat / 16), hexDigit (c.toNat % 16)]
    else [c]

/-- A string in JSON text. -/
def stringChars (s : String) : List Char := '"' :: (s.toList.flatMap stringChar ++ ['"'])

/-- The text of an integer. -/
def intChars (i : Int) : List Char :=
  (if i < 0 then ['-'] else []) ++ Nat.toDigits 10 i.natAbs

/-- A number in JSON text. -/
def numberChars : JsonNumber → List Char
  | .int i => intChars i
  | .double x => x.jsonChars?.getD ['n', 'u', 'l', 'l']

mutual

/-- The characters of the text of a value. -/
def chars : Json → List Char
  | .null => ['n', 'u', 'l', 'l']
  | .bool true => ['t', 'r', 'u', 'e']
  | .bool false => ['f', 'a', 'l', 's', 'e']
  | .number n => numberChars n
  | .string s => stringChars s
  | .array [] => ['[', ']']
  | .array (v :: vs) => '[' :: (chars v ++ elementsChars vs)
  | .object [] => ['{', '}']
  | .object ((name, v) :: ms) => '{' :: (stringChars name ++ ':' :: (chars v ++ membersChars ms))

/-- The elements after the first, and the end of the array. -/
def elementsChars : List Json → List Char
  | [] => [']']
  | v :: vs => ',' :: (chars v ++ elementsChars vs)

/-- The members after the first, and the end of the object. -/
def membersChars : List (String × Json) → List Char
  | [] => ['}']
  | (name, v) :: ms => ',' :: (stringChars name ++ ':' :: (chars v ++ membersChars ms))

end

/-- The text of a value. -/
def text (j : Json) : String := String.ofList j.chars

end Json

end TypedVars
