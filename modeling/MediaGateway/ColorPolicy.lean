/-!
# Colour of the log output

The user may ask for colour always or never. Left to itself the gateway colours its log when that
goes to a terminal, unless the environment speaks against it.
-/

namespace MediaGateway

/-- When log lines are coloured. -/
inductive ColorPolicy where
  | auto
  | always
  | never
deriving DecidableEq, Repr, Inhabited

namespace ColorPolicy

/-- The word for a policy on the command line. -/
def text : ColorPolicy → String
  | auto => "auto"
  | always => "always"
  | never => "never"

/-- Reads the word for a policy; the error is the message for the user. -/
def ofText (s : String) : Except String ColorPolicy :=
  match [auto, always, never].find? fun p => p.text == s with
  | some p => .ok p
  | none => .error ("expected auto, always or never, got `" ++ s ++ "`")

/-- Whether to colour, given whether the log goes to a terminal and the values that the environment
has for `NO_COLOR` and `EMACS`. A variable speaks against colour by being set, also to nothing. -/
def resolve (p : ColorPolicy) (noColor emacs : Option String) (terminal : Bool) : Bool :=
  match p with
  | always => true
  | never => false
  | auto => noColor.isNone && emacs.isNone && terminal

end ColorPolicy

end MediaGateway
