import LoxTokens.Text.Quoted

/-! What the arguments of the command ask for. -/

namespace LoxTokens

/-- An argument, which need not be text. -/
abbrev Argument := List UInt8

/-- Why arguments make no sense. -/
inductive Misuse
  /-- The script argument is not UTF-8. -/
  | notText
  /-- Arguments stand after the script. -/
  | unused (arguments : List Argument)
  deriving DecidableEq, Repr

/-- The wording of a misuse. -/
def Misuse.message : Misuse → String
  | .notText => "argument is not a UTF-8 string"
  | .unused arguments => "unused arguments left: " ++ String.ofList (Quoted.ofList arguments)

/-- What to do. -/
inductive Plan
  | help
  | misuse (misuse : Misuse)
  /-- Run a script, or the prompt when there is none. -/
  | start (quiet plain : Bool) (script : Option String)
  deriving DecidableEq, Repr

namespace Plan

/-- A flag as it stands among the arguments. -/
def flag (text : String) : Argument := Utf8.encode text.toList

/-- The two ways to ask for help. -/
def helpFlags : List Argument := [flag "-h", flag "--help"]

/-- What leaves out the listings. -/
def quietFlag : Argument := flag "--quiet"

/-- What leaves out the colours. -/
def plainFlag : Argument := flag "--no-color"

/-- The arguments that are left once each flag was taken out where it first stands. -/
def operands (arguments : List Argument) : List Argument :=
  (arguments.erase quietFlag).erase plainFlag

/-- The plan that arguments ask for; a request for help goes before everything else. -/
def ofArguments (arguments : List Argument) : Plan :=
  if arguments.any (helpFlags.contains ·) then .help
  else
    let quiet := arguments.contains quietFlag
    let plain := arguments.contains plainFlag
    match operands arguments with
    | [] => .start quiet plain none
    | script :: unused =>
      match Utf8.decode? script with
      | none => .misuse .notText
      | some path =>
        if unused.isEmpty then .start quiet plain (some (String.ofList path))
        else .misuse (.unused unused)

end Plan

end LoxTokens
