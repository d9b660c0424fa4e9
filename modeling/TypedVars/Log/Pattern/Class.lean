import TypedVars.Log.Pattern.Escape

/-!
# Classes of a pattern

A class of characters stands in brackets.  Its members are characters, ranges of them, classes by a
name, and further classes; doubled signs between members combine what is before and after them.  Of
a class only its *depth* is kept, which is how many layers it has: the class itself, a combination,
and several members side by side are a layer each.
-/

namespace TypedVars

namespace Pattern

/-- The depth of things that stand side by side, from their depths; one thing alone is no layer. -/
def sideBySide : List Nat → Nat
  | [] => 0
  | [depth] => depth
  | depths => depths.foldl Nat.max 0 + 1

/-- The depth of the members after a combination, together with what is before it. -/
def combined (before : Option Nat) (members : List Nat) : Nat :=
  match before with
  | none => sideBySide members
  | some depth => Nat.max depth (sideBySide members) + 1

/-- The names of classes of ASCII characters. -/
def classNames : List String :=
  ["alnum", "alpha", "ascii", "blank", "cntrl", "digit", "graph", "lower", "print", "punct",
    "space", "upper", "word", "xdigit"]

/-- Reads a class by its name, after the bracket: the name stands between colons, and a caret before
it asks for the complement. -/
def readNamed? : List Char → Option (Bool × List Char)
  | ':' :: r =>
    let (complement, r) := match r with
      | '^' :: r => (true, r)
      | _ => (false, r)
    let name := r.takeWhile (· != ':')
    match r.drop name.length with
    | ':' :: ']' :: rest =>
      if classNames.contains (String.ofList name) then some (complement, rest) else none
    | _ => none
  | _ => none

/-- Reads a character or an escape. -/
def readMember? (sw : Switches) : List Char → Option (Escape × List Char)
  | [] => none
  | '\\' :: r => readEscape? sw r
  | c :: r => some (.char c false, r)

/-- Whether something can be a member of a class. -/
def Escape.isMember (sw : Switches) : Escape → Bool
  | char c _ => sw.allowsMember c
  | predefined complement => sw.allowsPredefined complement
  | boundary | edge => false

/-- The rest after a member or a range; a hyphen makes a range unless it is the last member or
doubled. -/
def readRange? (sw : Switches) (cs : List Char) : Option (List Char) := do
  let (low, r) ← readMember? sw cs
  let r := sw.skip r
  let alone := if low.isMember sw then some r else none
  match r with
  | '-' :: more =>
    match sw.peek? more with
    | some ']' | some '-' => alone
    | _ =>
      let (high, r) ← readMember? sw (sw.skip more)
      match low, high with
      | .char a _, .char b _ =>
        if a ≤ b && sw.allowsMember a && sw.allowsMember b then some r else none
      | _, _ => none
  | _ => alone

/-- The beginning of a class after its bracket: whether it is a complement, and the rest. -/
def classStart (sw : Switches) (cs : List Char) : Bool × List Char :=
  match sw.skip cs with
  | '^' :: r => (true, r)
  | r => (false, r)

/-- Reads the members of a class up to its closing bracket, for their depth.  At the start hyphens
stand for themselves, and without these a closing bracket does, too. -/
def readMembers? (sw : Switches) :
    Nat → Bool → Option Nat → List Nat → List Char → Option (Nat × List Char)
  | 0, _, _, _, _ => none
  | fuel + 1, atStart, before, members, cs =>
    match sw.skip cs with
    | [] => none
    | ']' :: r =>
      if atStart && members.isEmpty then
        if sw.allowsMember ']' then readMembers? sw fuel false before [0] r else none
      else some (combined before members, r)
    | '[' :: r =>
      match readNamed? r with
      | some (complement, r) =>
        if sw.allowsNamed complement then readMembers? sw fuel false before (0 :: members) r
        else none
      | none => do
        let (complement, r) := classStart sw r
        let (depth, r) ← readMembers? sw fuel true none [] r
        if complement && !sw.allowsComplement then none
        else readMembers? sw fuel false before ((depth + 1) :: members) r
    | '-' :: r =>
      if atStart then
        if sw.allowsMember '-' then readMembers? sw fuel true before (0 :: members) r else none
      else
        match r with
        | '-' :: r => readMembers? sw fuel false (some (combined before members)) [] r
        | _ => (readRange? sw ('-' :: r)).bind (readMembers? sw fuel false before (0 :: members))
    | '&' :: '&' :: r | '~' :: '~' :: r =>
      readMembers? sw fuel false (some (combined before members)) [] r
    | r => (readRange? sw r).bind (readMembers? sw fuel false before (0 :: members))

/-- Reads a class after its opening bracket, for its depth. -/
def readClass? (sw : Switches) (cs : List Char) : Option (Nat × List Char) := do
  let (complement, r) := classStart sw cs
  let (depth, r) ← readMembers? sw (r.length + 1) true none [] r
  if complement && !sw.allowsComplement then none else some (depth + 1, r)

end Pattern

end TypedVars
