import TypedVars.Config.Toml.Number
import TypedVars.Config.Toml.Text

/-!
# Reading TOML

A document is read in two steps.  Its text becomes a list of statements, which are headers and keys
with values; then the statements are gathered into sections and the sections into the tree of
tables.  Values can be nested to a fixed depth.
-/

namespace TypedVars

namespace Toml

/-- The depth to which values and dotted keys may go. -/
def depthLimit : Nat := 80

/-! ### Keys -/

/-- The characters of a key without quotes. -/
def isBareKeyChar (c : Char) : Bool := c.isAlphanum || c == '-' || c == '_'

/-- A key without dots. -/
def readKey? (cs : List Char) : Option (String × List Char) :=
  match cs with
  | '"' :: r => (readBasic? r).map fun (s, r) => (String.ofList s, r)
  | '\'' :: r => (readLiteral? r).map fun (s, r) => (String.ofList s, r)
  | cs =>
    let key := cs.takeWhile isBareKeyChar
    if key.isEmpty then none else some (String.ofList key, cs.drop key.length)

/-- Keys with dots between them, and the white space around each. -/
def readPath? : Nat → List Char → Option (List String × List Char)
  | 0, _ => none
  | fuel + 1, cs => do
    let (key, r) ← readKey? (skipGap cs)
    match skipGap r with
    | '.' :: r => do
      let (keys, r) ← readPath? fuel r
      some (key :: keys, r)
    | r => some ([key], r)

/-- A dotted key of bounded length. -/
def readDottedKey? (cs : List Char) : Option (List String × List Char) :=
  readPath? (depthLimit - 1) cs

/-! ### Values -/

/-- The rest after a word. -/
def expectWord? (word cs : List Char) : Option (List Char) :=
  if word.isPrefixOf cs then some (cs.drop word.length) else none

mutual

/-- A value; `depth` values may be nested in it. -/
def readValue? : Nat → Nat → List Char → Option (Toml × List Char)
  | 0, _, _ => none
  | fuel + 1, depth, cs =>
    match cs with
    | '"' :: _ | '\'' :: _ => (readString? cs).map fun (s, r) => (string (String.ofList s), r)
    | '[' :: r =>
      if depth ≤ 1 then none
      else
        match skipLines false r with
        | ']' :: r => some (array [], r)
        | r => (readElements? fuel (depth - 1) r).map fun (vs, r) => (array vs, r)
    | '{' :: r =>
      if depth ≤ 1 then none
      else
        match skipGap r with
        | '}' :: r => some (table .inline [], r)
        | r => do
          let (keys, r) ← readMembers? fuel (depth - 1) r
          some (table .inline (← defineAll [] keys), r)
    | 't' :: _ => (expectWord? ['t', 'r', 'u', 'e'] cs).map fun r => (boolean true, r)
    | 'f' :: _ => (expectWord? ['f', 'a', 'l', 's', 'e'] cs).map fun r => (boolean false, r)
    | cs => readNumberOrDate? cs

/-- The elements of an array that is not empty, up to its closing bracket; a comma may come last. -/
def readElements? : Nat → Nat → List Char → Option (List Toml × List Char)
  | 0, _, _ => none
  | fuel + 1, depth, cs => do
    let (v, r) ← readValue? fuel depth (skipLines false cs)
    match skipLines false r with
    | ']' :: r => some ([v], r)
    | ',' :: r =>
      match skipLines false r with
      | ']' :: r => some ([v], r)
      | r => do
        let (vs, r) ← readElements? fuel depth r
        some (v :: vs, r)
    | _ => none

/-- The keys of an inline table that is not empty, up to its closing brace. -/
def readMembers? : Nat → Nat → List Char → Option (List (List String × Toml) × List Char)
  | 0, _, _ => none
  | fuel + 1, depth, cs => do
    let (path, r) ← readDottedKey? cs
    let (v, r) ← readValue? fuel depth (skipGap (← expect? '=' r))
    match skipGap r with
    | '}' :: r => some ([(path, v)], r)
    | ',' :: r => do
      let (keys, r) ← readMembers? fuel depth r
      some ((path, v) :: keys, r)
    | _ => none

end

/-! ### Statements -/

/-- What a line of a document says. -/
inductive Statement where
  | blank
  | header (h : TomlHeader)
  | define (path : List String) (v : Toml)

/-- A header after its first bracket. -/
def readHeader? : List Char → Option (TomlHeader × List Char)
  | '[' :: r => do
    let (path, r) ← readDottedKey? r
    some (⟨path, true⟩, ← expect? ']' (← expect? ']' r))
  | r => do
    let (path, r) ← readDottedKey? r
    some (⟨path, false⟩, ← expect? ']' r)

/-- A statement, without the end of its line. -/
def readStatement? (cs : List Char) : Option (Statement × List Char) :=
  match cs with
  | [] | '\n' :: _ | '\r' :: _ | '#' :: _ => some (.blank, cs)
  | '[' :: r => (readHeader? r).map fun (h, r) => (.header h, r)
  | cs => do
    let (path, r) ← readDottedKey? cs
    let r ← expect? '=' r
    let (v, r) ← readValue? (r.length + 1) depthLimit (skipGap r)
    some (.define path v, r)

/-- The statements of a text, line by line. -/
def readStatements? : Nat → List Char → Option (List Statement)
  | 0, _ => none
  | fuel + 1, cs => do
    let (s, r) ← readStatement? (skipGap cs)
    match ← lineEnd? r with
    | [] => some [s]
    | r => do some (s :: (← readStatements? fuel r))

/-! ### Documents -/

/-- A header with the keys up to the next one. -/
structure Section where
  header : TomlHeader
  keys : List (List String × Toml)

/-- The keys before the first header, and the sections. -/
def sections : List Statement → List (List String × Toml) × List Section
  | [] => ([], [])
  | .blank :: rest => sections rest
  | .define path v :: rest =>
    let (keys, ss) := sections rest
    ((path, v) :: keys, ss)
  | .header h :: rest =>
    let (keys, ss) := sections rest
    ([], ⟨h, keys⟩ :: ss)

/-- The entries of a document. -/
def documentOf? (statements : List Statement) : Option Entries := do
  let (keys, ss) := sections statements
  let root ← defineAll [] keys
  ss.foldlM (fun es s => section? es s.header s.keys) root

/-- The rest after a byte order mark. -/
def skipMark : List Char → List Char
  | '\ufeff' :: r => r
  | cs => cs

/-- The entries of the document that a text is. -/
def parse? (s : String) : Option Entries := do
  let cs := skipMark s.toList
  documentOf? (← readStatements? (cs.length + 1) cs)

end Toml

end TypedVars
