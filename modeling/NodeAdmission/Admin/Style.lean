/-!
# Styles

Messages for people are coloured where colours are wanted. A styled text begins with the codes of
its style and ends with a reset; a reset inside the text is followed by the codes again.
-/

namespace NodeAdmission.Admin

inductive Style where
  | success
  | failure
  | heading
  | notice
deriving DecidableEq, Repr

namespace Style

/-- The codes that begin a style: bold green, bold red, bold cyan and yellow. -/
def codes : Style → List Char
  | .success => "\x1b[1;32m".toList
  | .failure => "\x1b[1;31m".toList
  | .heading => "\x1b[1;36m".toList
  | .notice => "\x1b[33m".toList

def reset : List Char := ['\x1b', '[', '0', 'm']

/-- The text with the codes of the style behind every reset. -/
def afterResets (codes : List Char) : List Char → List Char
  | '\x1b' :: '[' :: '0' :: 'm' :: cs => reset ++ codes ++ afterResets codes cs
  | c :: cs => c :: afterResets codes cs
  | [] => []

def apply (s : Style) (text : String) : String :=
  String.ofList (s.codes ++ afterResets s.codes text.toList ++ reset)

/-- A variable that is set and not `0`. -/
def isOn (value : Option String) : Bool :=
  match value with
  | none => false
  | some v => v ≠ "0"

/-- Whether colours are wanted: they can be forced, else they can be forbidden, and else it depends
on whether the output is a terminal. -/
def wanted (lookup : String → Option String) (terminal : Bool) : Bool :=
  if isOn (lookup "CLICOLOR_FORCE") then true
  else if (lookup "NO_COLOR").isSome then false
  else isOn ((lookup "CLICOLOR").or (some "1")) && terminal

def paint (s : Style) (coloured : Bool) (text : String) : String :=
  if coloured then s.apply text else text

end Style
end NodeAdmission.Admin
