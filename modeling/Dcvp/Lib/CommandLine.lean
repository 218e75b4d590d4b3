import Mathlib.Data.List.Basic

/-!
# `Dcvp.Lib.CommandLine`: options in front of positional arguments

A command line that has its options first, and then positional arguments. An option is a flag, or
it takes the next argument as its value. The first argument that is no option ends the options,
and nothing behind it is read as one.

`parse_render` is the round trip: the settings of a command come back, with the positional
arguments, whatever their values are. So a value cannot become an option, and a positional
argument cannot either.
-/

set_option autoImplicit false

namespace Dcvp.Lib

/-- The options of a command: whether a name is one, and whether it takes a value. -/
structure OptionTable where
  takesValue : String → Option Bool

/-- An option on a command line: a flag that stands alone, or a name with the argument after it. -/
inductive Setting where
  | flag (name : String)
  | value (name value : String)
  deriving DecidableEq

namespace OptionTable

variable (table : OptionTable)

/-- The option is used as the table says. -/
def Admits : Setting → Prop
  | .flag name => table.takesValue name = some false
  | .value name _ => table.takesValue name = some true

/-- The settings of a command line and its positional arguments, when an option may still wait
for its value. An option without a value and an unknown option are errors. -/
def parseFrom : Option String → List String → Option (List Setting × List String)
  | some _, [] => none
  | some name, value :: rest =>
      (parseFrom none rest).map fun parsed => (.value name value :: parsed.1, parsed.2)
  | none, [] => some ([], [])
  | none, argument :: rest =>
      match table.takesValue argument with
      | some true => parseFrom (some argument) rest
      | some false => (parseFrom none rest).map fun parsed => (.flag argument :: parsed.1, parsed.2)
      | none => if "-".toList <+: argument.toList then none else some ([], argument :: rest)

/-- The settings of a command line and its positional arguments. -/
def parse (arguments : List String) : Option (List Setting × List String) :=
  table.parseFrom none arguments

/-- The arguments of an option. -/
def argumentsOf : Setting → List String
  | .flag name => [name]
  | .value name value => [name, value]

/-- The settings come back from the rendered command line, and so do the positional arguments, if
each setting is one of the table and the command does not look like an option. -/
theorem parse_render {settings : List Setting} (hsettings : ∀ s ∈ settings, table.Admits s)
    {command : String} (hcommand : table.takesValue command = none)
    (hdash : ¬ "-".toList <+: command.toList) (rest : List String) :
    table.parse (settings.flatMap argumentsOf ++ command :: rest) =
      some (settings, command :: rest) := by
  unfold parse
  induction settings with
  | nil =>
      rw [List.flatMap_nil, List.nil_append, parseFrom, hcommand]
      exact if_neg hdash
  | cons setting settings ih =>
      have hadmits := hsettings setting List.mem_cons_self
      have htail := ih fun s hs => hsettings s (List.mem_cons_of_mem _ hs)
      cases setting with
      | flag name =>
          have hname : table.takesValue name = some false := hadmits
          simp only [List.flatMap_cons, argumentsOf, List.cons_append, List.nil_append]
          rw [parseFrom, hname]
          simp only [htail, Option.map_some]
      | value name value =>
          have hname : table.takesValue name = some true := hadmits
          simp only [List.flatMap_cons, argumentsOf, List.cons_append, List.nil_append]
          rw [parseFrom, hname]
          simp only [parseFrom, htail, Option.map_some]

end OptionTable

end Dcvp.Lib
