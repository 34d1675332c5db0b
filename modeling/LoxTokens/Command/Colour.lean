/-! Whether reports may be coloured, from the settings around the command. -/

namespace LoxTokens

/-- The environment variables that speak about colour, and whether a terminal is attached. -/
structure ColourSettings where
  /-- The value of `CLICOLOR_FORCE`. -/
  force : Option String := none
  /-- The value of `NO_COLOR`. -/
  off : Option String := none
  /-- The value of `CLICOLOR`. -/
  wanted : Option String := none
  terminal : Bool := false

/--
Whether reports are coloured.

Force goes before all else, then any `NO_COLOR`; without either, a terminal has colours unless
it is told not to.
-/
def ColourSettings.allowed (settings : ColourSettings) : Bool :=
  if settings.force.any (· ≠ "0") then true
  else if settings.off.isSome then false
  else settings.terminal && settings.wanted.all (· ≠ "0")

end LoxTokens
