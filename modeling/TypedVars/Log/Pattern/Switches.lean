import TypedVars.Text.Blank

/-!
# Switches of a pattern

The rules of a pattern can be switched on and off, by letters after a question mark in parentheses.
What a switch does to the texts that match is of no concern here.  Three of the switches decide
about what is well formed:

* With `x` white space and comments do not count.
* With `u`, which is on at first, a pattern is about all characters.  The characters go without the
  tables of their properties, so that nothing can refer to one: no class by name, no end of a word.
  Without `u` a pattern may be about ASCII alone, and may not hold for anything else.
* With `i` letters stand for both of their cases.  Among all characters this needs the tables again,
  and no character can be named at all.
-/

namespace TypedVars

namespace Pattern

/-- The switches that decide about what is well formed. -/
structure Switches where
  ignoreCase : Bool := false
  allCharacters : Bool := true
  verbose : Bool := false
  deriving DecidableEq

/-- The letters of the switches. -/
def switchLetters : List Char := ['i', 'm', 's', 'U', 'u', 'R', 'x']

/-- The text after white space and comments, of which each reaches to the end of its line. -/
def skipFiller (inComment : Bool) : List Char → List Char
  | [] => []
  | c :: r =>
    if inComment then skipFiller (c != '\n') r
    else if c == '#' then skipFiller true r
    else if isBlank c then skipFiller false r
    else c :: r

namespace Switches

/-- Turns the switches of some letters on or off. -/
def turn (sw : Switches) (letters : List Char) (value : Bool) : Switches where
  ignoreCase := if letters.contains 'i' then value else sw.ignoreCase
  allCharacters := if letters.contains 'u' then value else sw.allCharacters
  verbose := if letters.contains 'x' then value else sw.verbose

/-- The switches that some text turns: letters that differ, and those after a hyphen are turned
off. -/
def turned? (sw : Switches) (text : List Char) : Option Switches :=
  let on := text.takeWhile (· != '-')
  let off := text.drop on.length
  let letters := on ++ off.drop 1
  if off != ['-'] && decide letters.Nodup && letters.all switchLetters.contains then
    some ((sw.turn on true).turn off false)
  else none

/-- The text from the next character that counts. -/
def skip (sw : Switches) (cs : List Char) : List Char :=
  if sw.verbose then skipFiller false cs else cs

/-- The character that is looked at to tell a range from a hyphen.  Of a comment only the sign is
passed over; where nothing else is left, it is the very next character. -/
def peek? (sw : Switches) (cs : List Char) : Option Char :=
  if sw.verbose then
    let rest := cs.dropWhile isBlank
    let rest := match rest with
      | '#' :: r => r.dropWhile isBlank
      | _ => rest
    rest.head?.or cs.head?
  else cs.head?

/-! ### What can be said -/

/-- Whether a character can stand for itself; one by its byte is in doubt only beyond ASCII. -/
def allowsChar (sw : Switches) (c : Char) (byByte : Bool) : Bool :=
  if sw.allCharacters then !sw.ignoreCase else !byByte || c.toNat < 0x80

/-- Whether a character can be a member of a class. -/
def allowsMember (sw : Switches) (c : Char) : Bool :=
  if sw.allCharacters then !sw.ignoreCase else c.toNat < 0x80

/-- Whether a class of ASCII characters, or its complement, can be a member of a class. -/
def allowsNamed (sw : Switches) (complement : Bool) : Bool :=
  if sw.allCharacters then !sw.ignoreCase else !complement

/-- Whether there is a class of all digits, spaces or parts of words, or its complement. -/
def allowsPredefined (sw : Switches) (complement : Bool) : Bool :=
  !sw.allCharacters && !complement

/-- Whether there is a character for all that are not in a class, and one for any. -/
def allowsComplement (sw : Switches) : Bool := sw.allCharacters

/-- Whether the ends of words are known. -/
def allowsBoundary (sw : Switches) : Bool := !sw.allCharacters

end Switches

end Pattern

end TypedVars
