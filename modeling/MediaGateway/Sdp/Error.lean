/-!
# What can be wrong with a session description

A description is refused when a required line is missing, when an interpreted line does not have
its form, or when an address in it is no address.
-/

namespace MediaGateway

/-- Why a session description is refused. -/
inductive SdpError where
  /-- No line of this type, though one is required. -/
  | missingField (field : Char)
  /-- A line of type `field` that does not have its form. -/
  | malformed (field : Char) (line : String)
  /-- A text in the place of an address that is none. -/
  | address (text : String)
deriving DecidableEq, Repr

/-- The wording of the refusal. -/
def SdpError.message : SdpError → String
  | missingField c => "missing required field `" ++ c.toString ++ "=`"
  | malformed c line => "malformed `" ++ c.toString ++ "=` line: " ++ line
  | address text => "unresolvable address `" ++ text ++ "`"

end MediaGateway
