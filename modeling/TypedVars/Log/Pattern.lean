import TypedVars.Log.Pattern.Class
import TypedVars.Text.Letter

/-!
# Patterns of field values

A directive of a log filter may ask for the value of a field by a regular expression.  No value is
ever compared with one, so that a pattern is only tested for being *well formed*: it follows the
grammar, its groups have different names, it says nothing that its switches rule out, and it has at
most 250 layers.  A group, a repetition, a class, several things one after another, and several
branches are a layer each.
-/

namespace TypedVars

namespace Pattern

/-! ### Groups -/

/-- What a parenthesis opens. -/
inductive Opening where
  /-- A group with its switches and possibly its name. -/
  | group (sw : Switches) (name : Option (List Char))
  /-- No group, but switches for the rest of the group around it. -/
  | switches (sw : Switches)

/-- The name of a group: it begins with a letter or an underscore. -/
def isGroupName : List Char → Bool
  | [] => false
  | c :: cs =>
    (c == '_' || isLetter c) &&
      cs.all fun c => isLetterOrNumber c || ['_', '.', '[', ']'].contains c

/-- Reads what comes after a parenthesis and before the inside of a group. -/
def readOpening? (sw : Switches) : List Char → Option (Opening × List Char)
  | '?' :: 'P' :: '<' :: r | '?' :: '<' :: r =>
    let name := r.takeWhile (· != '>')
    match r.drop name.length with
    | _ :: r => if isGroupName name then some (.group sw (some name), r) else none
    | [] => none
  | '?' :: r =>
    let letters := r.takeWhile fun c => c != ':' && c != ')'
    match sw.turned? letters, r.drop letters.length with
    | some inner, ':' :: r => some (.group inner none, r)
    | some inner, ')' :: r => if letters.isEmpty then none else some (.switches inner, r)
    | _, _ => none
  | r => some (.group sw none, r)

/-! ### Branches -/

/-- A part of a branch. -/
structure Part where
  depth : Nat
  repeatable : Bool

/-- The depth of a branch. -/
def branchDepth (parts : List Part) : Nat := sideBySide (parts.map (·.depth))

/-- The rest after a part that is no layer. -/
def readAtom? (sw : Switches) : List Char → Option (List Char)
  | '\\' :: r =>
    match readEscape? sw r with
    | some (.char c byByte, r) => if sw.allowsChar c byByte then some r else none
    | some (.predefined complement, r) => if sw.allowsPredefined complement then some r else none
    | some (.boundary, r) => if sw.allowsBoundary then some r else none
    | some (.edge, r) => some r
    | none => none
  | '.' :: r => if sw.allowsComplement then some r else none
  | '^' :: r | '$' :: r => some r
  | c :: r => if sw.allowsChar c false then some r else none
  | [] => none

/-- Reads branches up to the end of their group or of the pattern, for their depth.  `names` are the
names of all groups so far, `done` the depths of the branches that are complete and `parts` the
parts of the last branch; both are in reverse order. -/
def readBranches? :
    Nat → Switches → List (List Char) → List Nat → List Part → List Char →
      Option (Nat × List (List Char) × List Char)
  | 0, _, _, _, _, _ => none
  | fuel + 1, sw, names, done, parts, cs =>
    match sw.skip cs with
    | [] => some (sideBySide (branchDepth parts :: done), names, [])
    | ')' :: r => some (sideBySide (branchDepth parts :: done), names, ')' :: r)
    | '|' :: r => readBranches? fuel sw names (branchDepth parts :: done) [] r
    | '(' :: r =>
      match readOpening? sw (sw.skip r) with
      | some (.switches sw, r) => readBranches? fuel sw names done (⟨0, false⟩ :: parts) r
      | some (.group inner name, r) =>
        if name.any names.contains then none
        else
          match readBranches? fuel inner (name.toList ++ names) [] [] r with
          | some (depth, names, ')' :: r) =>
            readBranches? fuel sw names done (⟨depth + 1, true⟩ :: parts) r
          | _ => none
      | none => none
    | '[' :: r => do
      let (depth, r) ← readClass? sw r
      readBranches? fuel sw names done (⟨depth, true⟩ :: parts) r
    | '*' :: r | '+' :: r | '?' :: r =>
      match parts with
      | ⟨depth, true⟩ :: earlier =>
        let r := match r with
          | '?' :: r => r
          | _ => r
        readBranches? fuel sw names done (⟨depth + 1, true⟩ :: earlier) r
      | _ => none
    | '{' :: _ => none
    | r => (readAtom? sw r).bind (readBranches? fuel sw names done (⟨0, true⟩ :: parts))

/-! ### Patterns -/

/-- The greatest depth of a pattern. -/
def depthLimit : Nat := 250

/-- Whether a text is a pattern. -/
def isWellFormed (cs : List Char) : Bool :=
  match readBranches? (cs.length + 1) {} [] [] [] cs with
  | some (depth, _, []) => depth ≤ depthLimit
  | _ => false

end Pattern

end TypedVars
