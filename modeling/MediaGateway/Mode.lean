/-!
# Connection modes

A mode says in which directions media may flow over a leg. The four modes are the four direction
attributes of a session description. They have two spellings: the attribute (`sendrecv`) and the
one used by call control (`SEND_RECV`). Both are read, without regard to ASCII case and to
underscores.
-/

namespace MediaGateway

/-- The directions in which media may flow. -/
inductive Mode where
  | inactive
  | sendOnly
  | recvOnly
  | sendRecv
deriving DecidableEq, Repr, Inhabited

namespace Mode

/-- Whether media may be sent. -/
def sends : Mode → Bool
  | sendOnly | sendRecv => true
  | inactive | recvOnly => false

/-- Whether media may be received. -/
def receives : Mode → Bool
  | recvOnly | sendRecv => true
  | inactive | sendOnly => false

/-- The mode of the other side of the leg: what one side sends the other receives. -/
def reversed : Mode → Mode
  | sendOnly => recvOnly
  | recvOnly => sendOnly
  | inactive => inactive
  | sendRecv => sendRecv

/-- The direction attribute of a session description. -/
def token : Mode → String
  | inactive => "inactive"
  | sendOnly => "sendonly"
  | recvOnly => "recvonly"
  | sendRecv => "sendrecv"

/-- The spelling of call control. -/
def display : Mode → String
  | inactive => "INACTIVE"
  | sendOnly => "SEND_ONLY"
  | recvOnly => "RECV_ONLY"
  | sendRecv => "SEND_RECV"

/-- The name of the constant in diagnostic texts. -/
def debugName : Mode → String
  | inactive => "Inactive"
  | sendOnly => "SendOnly"
  | recvOnly => "RecvOnly"
  | sendRecv => "SendRecv"

/-- All modes. -/
def all : List Mode := [inactive, sendOnly, recvOnly, sendRecv]

/-- A spelling without its underscores and in lower case. -/
def normalize (cs : List Char) : String :=
  String.ofList ((cs.map Char.toLower).filter (· ≠ '_'))

/-- Reads either spelling. -/
def ofChars? (cs : List Char) : Option Mode :=
  all.find? fun m => m.token == normalize cs

/-- Reads either spelling; the error is the message for the user. -/
def ofText (s : String) : Except String Mode :=
  match ofChars? s.toList with
  | some m => .ok m
  | none => .error ("unknown connection mode: " ++ s)

@[simp] theorem reversed_reversed (m : Mode) : m.reversed.reversed = m := by
  cases m <;> rfl

@[simp] theorem sends_reversed (m : Mode) : m.reversed.sends = m.receives := by
  cases m <;> rfl

@[simp] theorem receives_reversed (m : Mode) : m.reversed.receives = m.sends := by
  cases m <;> rfl

end Mode

end MediaGateway
