namespace Admissions

namespace Cli

namespace ShellScript

/-- A text padded with blanks on the right to at least `width` characters. -/
def padRight (s : String) (width : Nat) : String :=
  s ++ String.ofList (List.replicate (width - s.length) ' ')

/-- The variable that turns a program's hints off: the program's name in upper
case followed by `_ACTIVE_HELP`, dashes and colons written as underscores. -/
def hintVariable (name : String) : String :=
  String.ofList ((name ++ "_ACTIVE_HELP").toList.map fun c =>
    if c = '-' || c = ':' then '_' else if 'a' ≤ c && c ≤ 'z' then Char.ofNat (c.toNat - 32) else c)

/-- Fills the holes of a script template for a program and its request command. -/
def fill (template name request : String) : String :=
  (((template.replace "%-36[1]s" (padRight name 36)).replace "%[1]s" name).replace "%[2]s" request).replace
    "%[3]s" (hintVariable name)

end ShellScript

end Cli

end Admissions
