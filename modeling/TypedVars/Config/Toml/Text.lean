import TypedVars.Json.Reader

/-!
# Texts in TOML

Strings come in four forms: with or without escapes, on one line or on several.  Outside of strings
control characters are errors, the tabulator apart, and a carriage return only stands before a line
feed.
-/

namespace TypedVars

namespace Toml

/-- White space within a line. -/
def isGap (c : Char) : Bool := c == ' ' || c == '\t'

/-- The characters of comments and strings: all but the controls, of which the tabulator counts. -/
def isPlain (c : Char) : Bool := c == '\t' || (' ' ≤ c && c != '\x7f')

/-- The rest after white space within a line. -/
def skipGap (cs : List Char) : List Char := cs.dropWhile isGap

/-- The rest after the end of a line. -/
def newline? : List Char → Option (List Char)
  | '\n' :: r => some r
  | '\r' :: '\n' :: r => some r
  | _ => none

/-- The rest after a comment, if there is one. -/
def skipComment : List Char → List Char
  | '#' :: r => r.dropWhile isPlain
  | cs => cs

/-- The rest after the remainder of a line that has nothing more to say. -/
def lineEnd? (cs : List Char) : Option (List Char) :=
  match skipComment (skipGap cs) with
  | [] => some []
  | r => newline? r

/-- The rest after white space, comments and line breaks. -/
def skipLines (inComment : Bool) : List Char → List Char
  | [] => []
  | '\n' :: r => skipLines false r
  | '\r' :: '\n' :: r => skipLines false r
  | c :: r =>
    if inComment then if isPlain c then skipLines true r else c :: r
    else if isGap c then skipLines false r
    else if c = '#' then skipLines true r
    else c :: r

/-! ### Escapes -/

/-- The character that a letter stands for after a backslash. -/
def escaped? : Char → Option Char
  | 'b' => some '\x08'
  | 'f' => some '\x0c'
  | 'n' => some '\n'
  | 'r' => some '\r'
  | 't' => some '\t'
  | '"' => some '"'
  | '\\' => some '\\'
  | _ => none

/-- The number of some hexadecimal digits. -/
def hexNumber? (digits : List Char) : Option Nat :=
  digits.foldlM (fun n c => (Json.hexValue? c).map (16 * n + ·)) 0

/-- The character of a code point, in hexadecimal digits; surrogates are none. -/
def codePoint? (digits : List Char) : Option Char := do
  let n ← hexNumber? digits
  if n.isValidChar then some (Char.ofNat n) else none

/-- Puts a character before what was read after it. -/
def before (c : Char) (r : Option (List Char × List Char)) : Option (List Char × List Char) :=
  r.map fun (s, rest) => (c :: s, rest)

/-! ### Strings on one line -/

/-- The rest of a string in double quotes. -/
def readBasic? : List Char → Option (List Char × List Char)
  | [] => none
  | '"' :: r => some ([], r)
  | '\\' :: 'u' :: a :: b :: c :: d :: r => do
    before (← codePoint? [a, b, c, d]) (readBasic? r)
  | '\\' :: 'U' :: a :: b :: c :: d :: e :: f :: g :: h :: r => do
    before (← codePoint? [a, b, c, d, e, f, g, h]) (readBasic? r)
  | '\\' :: c :: r => do before (← escaped? c) (readBasic? r)
  | c :: r => if isPlain c then before c (readBasic? r) else none

/-- The rest of a string in single quotes. -/
def readLiteral? : List Char → Option (List Char × List Char)
  | [] => none
  | '\'' :: r => some ([], r)
  | c :: r => if isPlain c then before c (readLiteral? r) else none

/-! ### Strings on several lines -/

/-- Whether a line ends after white space. -/
def endsLine (cs : List Char) : Bool := (newline? (skipGap cs)).isSome

/-- The rest of a string between three double quotes.  A backslash at the end of a line joins it to
the next text (`joining`), and up to two quotes can stand before the closing ones. -/
def readLongBasic? (joining : Bool) : List Char → Option (List Char × List Char)
  | [] => none
  | '"' :: '"' :: '"' :: '"' :: '"' :: r => some (['"', '"'], r)
  | '"' :: '"' :: '"' :: '"' :: r => some (['"'], r)
  | '"' :: '"' :: '"' :: r => some ([], r)
  | '"' :: r => before '"' (readLongBasic? false r)
  | '\n' :: r => if joining then readLongBasic? true r else before '\n' (readLongBasic? false r)
  | '\r' :: '\n' :: r =>
    if joining then readLongBasic? true r else before '\n' (readLongBasic? false r)
  | '\\' :: 'u' :: a :: b :: c :: d :: r => do
    before (← codePoint? [a, b, c, d]) (readLongBasic? false r)
  | '\\' :: 'U' :: a :: b :: c :: d :: e :: f :: g :: h :: r => do
    before (← codePoint? [a, b, c, d, e, f, g, h]) (readLongBasic? false r)
  | '\\' :: c :: r =>
    if endsLine (c :: r) then readLongBasic? true (c :: r)
    else do before (← escaped? c) (readLongBasic? false r)
  | c :: r =>
    if joining && isGap c then readLongBasic? true r
    else if isPlain c then before c (readLongBasic? false r)
    else none

/-- The rest of a string between three single quotes. -/
def readLongLiteral? : List Char → Option (List Char × List Char)
  | [] => none
  | '\'' :: '\'' :: '\'' :: '\'' :: '\'' :: r => some (['\'', '\''], r)
  | '\'' :: '\'' :: '\'' :: '\'' :: r => some (['\''], r)
  | '\'' :: '\'' :: '\'' :: r => some ([], r)
  | '\n' :: r => before '\n' (readLongLiteral? r)
  | '\r' :: '\n' :: r => before '\n' (readLongLiteral? r)
  | c :: r => if isPlain c then before c (readLongLiteral? r) else none

/-- The rest after a line break that opens a string on several lines. -/
def skipNewline (cs : List Char) : List Char := (newline? cs).getD cs

/-- A string in any of its forms. -/
def readString? : List Char → Option (List Char × List Char)
  | '"' :: '"' :: '"' :: r => readLongBasic? false (skipNewline r)
  | '"' :: r => readBasic? r
  | '\'' :: '\'' :: '\'' :: r => readLongLiteral? (skipNewline r)
  | '\'' :: r => readLiteral? r
  | _ => none

end Toml

end TypedVars
