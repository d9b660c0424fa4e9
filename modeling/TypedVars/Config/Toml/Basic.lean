import TypedVars.Number.Double

/-!
# TOML documents

A TOML document is a tree of tables.  How a table came into being decides what may still be added to
it, so a table carries its origin.  The two functions that build a document, `define` for a key with
a value and `section?` for a header with its keys, refuse whatever would define something twice.
-/

namespace TypedVars

/-- How a table came into being. -/
inductive TableOrigin where
  /-- It was written between braces, and is complete. -/
  | inline
  /-- It has a header of its own. -/
  | header
  /-- It is on the way to the table of a header. -/
  | implied
  /-- It is on the way to a dotted key. -/
  | dotted
  deriving DecidableEq, Repr

/-- A value of TOML. -/
inductive Toml where
  | string (s : String)
  | integer (i : Int)
  | float (x : Double)
  | boolean (b : Bool)
  /-- A date, a time, or both. -/
  | datetime (text : String)
  | array (elements : List Toml)
  | table (origin : TableOrigin) (entries : List (String × Toml))
  /-- The tables of headers in double brackets, first one first. -/
  | tables (elements : List (List (String × Toml)))

/-- The header of a section. -/
structure TomlHeader where
  path : List String
  /-- Whether the brackets are double. -/
  repeats : Bool
  deriving DecidableEq, Repr

namespace Toml

/-- The entries of a table, in the order of their definition. -/
abbrev Entries := List (String × Toml)

/-- Puts a value in the place of another one. -/
def replace (key : String) (v : Toml) (es : Entries) : Entries :=
  es.map fun e => if e.1 = key then (key, v) else e

/-- Changes the last table of several. -/
def changeLast (f : Entries → Option Entries) : List Entries → Option (List Entries)
  | [] => none
  | [last] => (f last).map fun es => [es]
  | first :: rest => (changeLast f rest).map (first :: ·)

/-- Gives a key a value.  Dotted keys lead through tables that headers or dotted keys implied, and
end in one that dotted keys made (or in the table where they started); no key is defined twice. -/
def define (takesKeys : Bool) : List String → Toml → Entries → Option Entries
  | [], _, _ => none
  | [key], v, es =>
    if takesKeys && (es.lookup key).isNone then some (es ++ [(key, v)]) else none
  | key :: rest, v, es =>
    match es.lookup key with
    | none => do
      let sub ← define true rest v []
      some (es ++ [(key, table .dotted sub)])
    | some (table .dotted sub) => do
      let sub ← define true rest v sub
      some (replace key (table .dotted sub) es)
    | some (table .implied sub) => do
      let sub ← define false rest v sub
      some (replace key (table .implied sub) es)
    | some (tables ts) => do
      let ts ← changeLast (define false rest v) ts
      some (replace key (tables ts) es)
    | some _ => none

/-- Gives some keys their values. -/
def defineAll (es : Entries) (keys : List (List String × Toml)) : Option Entries :=
  keys.foldlM (fun es (path, v) => define true path v es) es

/-- Changes the table that a header's path leads to, with the tables on the way that are missing. -/
def changeAt (f : Entries → Option Entries) : List String → Entries → Option Entries
  | [], es => f es
  | key :: rest, es =>
    match es.lookup key with
    | none => do
      let sub ← changeAt f rest []
      some (es ++ [(key, table .implied sub)])
    | some (table .inline _) => none
    | some (table origin sub) => do
      let sub ← changeAt f rest sub
      some (replace key (table origin sub) es)
    | some (tables ts) => do
      let ts ← changeLast (changeAt f rest) ts
      some (replace key (tables ts) es)
    | some _ => none

/-- The table of a header with its keys, beside the other entries of the table that it is in. -/
def place (repeats : Bool) (key : String) (keys : List (List String × Toml)) (es : Entries) :
    Option Entries :=
  match es.lookup key with
  | none => do
    let sub ← defineAll [] keys
    some (es ++ [(key, if repeats then tables [sub] else table .header sub)])
  | some (table .implied sub) =>
    if repeats then none
    else do
      let sub ← defineAll sub keys
      some (replace key (table .header sub) es)
  | some (tables ts) =>
    if repeats then do
      let sub ← defineAll [] keys
      some (replace key (tables (ts ++ [sub])) es)
    else none
  | some _ => none

/-- Adds a section to a document: a header, and the keys that follow it. -/
def section? (es : Entries) (header : TomlHeader) (keys : List (List String × Toml)) :
    Option Entries := do
  let key ← header.path.getLast?
  changeAt (place header.repeats key keys) header.path.dropLast es

end Toml

end TypedVars
