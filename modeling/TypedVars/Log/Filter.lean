import TypedVars.Log.Directive

/-!
# Log filters

A filter decides which entries of the log are written.  It is given as directives with commas
between them.

Of several directives that cover an entry the one with the longest target decides, then one that
asks for a field, then the one whose field comes last in the alphabet; of two for the same entries
the later one is taken.
-/

namespace TypedVars

/-- The directives of a filter, at most one for each target and condition. -/
abbrev LogFilter := List Directive

namespace LogFilter

/-- Adds a directive in place of the one for the same entries. -/
def add (f : LogFilter) (d : Directive) : LogFilter :=
  f.filter (fun e => (e.target, e.condition) ≠ (d.target, d.condition)) ++ [d]

/-- The filter of a text, unless one of its directives cannot be read; empty directives do not
count, and a filter without directives lets errors through. -/
def ofText (s : String) : Except Misread LogFilter := do
  let directives ← ((pieces ',' s.toList).filter (!·.isEmpty)).mapM Directive.ofChars
  if directives.isEmpty then .ok [⟨none, .always, some .error⟩]
  else .ok (directives.foldl add [])

/-- The directive that decides about the entries of a part of the program that have these fields. -/
def decisive? (f : LogFilter) (origin : String) (fieldNames : List String) : Option Directive :=
  (f.filter (·.covers origin.toList fieldNames)).foldl
    (fun best d =>
      match best with
      | some b => if d.overrules b then some d else best
      | none => some d)
    none

/-- Whether an entry is written. -/
def passes (f : LogFilter) (origin : String) (fieldNames : List String) (level : Level) : Bool :=
  match f.decisive? origin fieldNames with
  | some ⟨_, _, some least⟩ => level.rank ≤ least.rank
  | _ => false

end LogFilter

end TypedVars
