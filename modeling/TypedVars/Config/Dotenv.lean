import TypedVars.Config.Basic
import TypedVars.Text.Alphanumeric

/-!
# Environment files

A file can set variables of the environment, one to a line, of the form `NAME=value`.  A value may
have quotes, in which it can go on for several lines, escapes, and references to other variables.
The lines count one after another: a variable that is set keeps its value, and the first line that
cannot be read ends the file without an error.
-/

namespace TypedVars

namespace Dotenv

/-! ### Lines -/

/-- Where a line stands with its quotes. -/
inductive LineState where
  | plain
  /-- After one white space character, where a comment can begin. -/
  | space
  | escape
  | single
  | singleEscape
  | double
  | doubleEscape
  deriving DecidableEq

namespace LineState

/-- What a character outside of quotes leads to. -/
def outside (c : Char) : LineState :=
  if c = '\\' then escape else if c = '"' then double else if c = '\'' then single else plain

/-- What the next character leads to.  After a white space character any other one counts as part
of the text, a second white space character included. -/
def next (st : LineState) (c : Char) : LineState :=
  match st with
  | plain => if isBlank c && c != '\n' && c != '\r' then space else outside c
  | space => outside c
  | escape => plain
  | single => if c = '\\' then singleEscape else if c = '\'' then plain else single
  | singleEscape => single
  | double => if c = '\\' then doubleEscape else if c = '"' then plain else double
  | doubleEscape => double

end LineState

/-- The text before a comment, and the state after it unless there is a comment. -/
def scan (st : LineState) : List Char → List Char × Option LineState
  | [] => ([], some st)
  | c :: r =>
    if st = .space ∧ c = '#' then ([], none)
    else
      let (kept, last) := scan (st.next c) r
      (c :: kept, last)

/-- The lines of a file, each with its line break; one that is not UTF-8 is none. -/
def rawLines (line : List UInt8) : List UInt8 → List (Option (List Char))
  | [] => if line.isEmpty then [] else [decoded line]
  | b :: r => if b = 10 then decoded (b :: line) :: rawLines [] r else rawLines (b :: line) r
where
  /-- The characters of a line whose bytes are given last one first. -/
  decoded (line : List UInt8) : Option (List Char) :=
    (String.fromUTF8? ⟨line.reverse.toArray⟩).map String.toList

/-- The lines with those joined that a quote or an escape holds together.  Nothing follows a line
that cannot be read. -/
def joinLines (begun : List Char) (st : LineState) :
    List (Option (List Char)) → List (Option (List Char))
  | [] => if st = .plain then [] else [none]
  | none :: _ => [none]
  | some line :: rest =>
    if (trimStart (begun ++ line)).head? = some '#' then some [] :: joinLines [] .plain rest
    else
      match scan st line with
      | (kept, none) => some (begun ++ kept) :: joinLines [] .plain rest
      | (_, some .plain) => some (begun ++ line) :: joinLines [] .plain rest
      | (_, some st) => joinLines (begun ++ line) st rest

/-! ### Values -/

/-- Where a value stands. -/
inductive ValueState where
  | plain
  | single
  | double
  /-- After a backslash, in double quotes or not. -/
  | escape (quoted : Bool)
  /-- In the name of a variable, after a dollar sign. -/
  | name (quoted : Bool) (read : List Char)
  /-- In the name of a variable between braces. -/
  | braced (quoted : Bool) (read : List Char)
  /-- After the value, where only a comment can follow. -/
  | ended

namespace ValueState

/-- In double quotes, or not. -/
def inside (quoted : Bool) : ValueState := if quoted then double else plain

end ValueState

/-- The character that another one stands for after a backslash. -/
def escaped? (c : Char) : Option Char :=
  match c with
  | '\\' | '\'' | '"' | '$' | ' ' => some c
  | 'n' => some '\n'
  | _ => none

/-- Reads a value, where `valueOf` gives the values of variables.  The name of a variable without
braces goes as far as its letters and digits do, and the character after it, be it a quote, belongs
to the value. -/
def readValue? (valueOf : List Char → List Char) : ValueState → List Char → Option (List Char)
  | .plain, [] | .ended, [] | .escape false, [] => some []
  | .name false read, [] => some (valueOf read)
  | _, [] => none
  | .ended, c :: r =>
    if c = ' ' ∨ c = '\t' then readValue? valueOf .ended r else if c = '#' then some [] else none
  | .escape quoted, c :: r => do
    let c ← escaped? c
    (readValue? valueOf (.inside quoted) r).map (c :: ·)
  | .single, c :: r =>
    if c = '\'' then readValue? valueOf .plain r else (readValue? valueOf .single r).map (c :: ·)
  | .name quoted read, c :: r =>
    if isLetterOrNumber c then readValue? valueOf (.name quoted (read ++ [c])) r
    else if c = '\x7b' ∧ read = [] then readValue? valueOf (.braced quoted []) r
    else if c = '$' then (readValue? valueOf (.name quoted []) r).map (valueOf read ++ ·)
    else (readValue? valueOf (.inside quoted) r).map (valueOf read ++ c :: ·)
  | .braced quoted read, c :: r =>
    if c = '\x7d' then (readValue? valueOf (.inside quoted) r).map (valueOf read ++ ·)
    else readValue? valueOf (.braced quoted (read ++ [c])) r
  | .double, c :: r =>
    if c = '$' then readValue? valueOf (.name true []) r
    else if c = '"' then readValue? valueOf .plain r
    else if c = '\\' then readValue? valueOf (.escape true) r
    else (readValue? valueOf .double r).map (c :: ·)
  | .plain, c :: r =>
    if c = '$' then readValue? valueOf (.name false []) r
    else if c = '\'' then readValue? valueOf .single r
    else if c = '"' then readValue? valueOf .double r
    else if c = '\\' then readValue? valueOf (.escape false) r
    else if c = ' ' ∨ c = '\t' then readValue? valueOf .ended r
    else (readValue? valueOf .plain r).map (c :: ·)

/-! ### Assignments -/

/-- A name, and the rest. -/
def readName? (cs : List Char) : Option (List Char × List Char) :=
  match cs with
  | [] => none
  | c :: _ =>
    if c.isAlpha || c == '_' then
      let name := cs.takeWhile fun c => c.isAlphanum || c == '_' || c == '.'
      some (name, cs.drop name.length)
    else none

/-- The rest after a name and an equals sign. -/
def readTarget? (cs : List Char) : Option (List Char × List Char) := do
  let (name, r) ← readName? cs
  match trimStart r with
  | '=' :: r => some (name, r)
  | r =>
    if name = ['e', 'x', 'p', 'o', 'r', 't'] then do
      let (name, r) ← readName? r
      match trimStart r with
      | '=' :: r => some (name, r)
      | _ => none
    else none

/-- What a line says. -/
inductive Line where
  | blank
  | assign (name value : String)

/-- Reads a line. -/
def readLine? (valueOf : List Char → List Char) (line : List Char) : Option Line :=
  let cs := trim line
  if cs.isEmpty || cs.head? == some '#' then some .blank
  else do
    let (name, r) ← readTarget? cs
    let r := trimStart r
    if r.isEmpty || r.head? == some '#' then some (.assign (String.ofList name) "")
    else do
      let value ← readValue? valueOf .plain r
      some (.assign (String.ofList name) (String.ofList value))

/-- The value of a variable in the environment, or else in the lines before. -/
def reference (env earlier : Environment) (name : List Char) : List Char :=
  match env.lineValue? name with
  | some value => value
  | none => ((earlier.get? (String.ofList name)).getD "").toList

/-- Does what the lines say, with what the lines before have said. -/
def follow (env earlier : Environment) : List (Option (List Char)) → Environment
  | [] | none :: _ => env
  | some line :: rest =>
    match readLine? (reference env earlier) line with
    | none => env
    | some .blank => follow env earlier rest
    | some (.assign name value) =>
      follow (env.setDefault name value) ((name, value) :: earlier) rest

/-- The bytes after a byte order mark. -/
def skipMark : List UInt8 → List UInt8
  | 0xEF :: 0xBB :: 0xBF :: r => r
  | bytes => bytes

/-- The environment after a file has set its variables. -/
def load (bytes : ByteArray) (env : Environment) : Environment :=
  follow env [] (joinLines [] .plain (rawLines [] (skipMark bytes.toList)))

end Dotenv

end TypedVars
