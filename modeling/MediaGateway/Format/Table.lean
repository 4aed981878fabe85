import MediaGateway.Format

/-!
# Format tables

A table holds at most one format for each payload number. Its order is the order of preference:
that in which the payload numbers were first added. Adding a format under a number that is present
replaces the old one in its place.
-/

namespace MediaGateway

/-- An ordered collection of formats with distinct payload numbers. -/
structure FormatTable where
  /-- The formats in order of preference. -/
  toList : List Format
deriving DecidableEq, Repr, Inhabited

namespace FormatTable

/-- The table without formats. -/
def empty : FormatTable := ⟨[]⟩

/-- The list with `f` in the place of the entry of its payload number, or at the end. -/
def insertInto (f : Format) : List Format → List Format
  | [] => [f]
  | g :: rest => if g.payloadType = f.payloadType then f :: rest else g :: insertInto f rest

/-- Adds a format, replacing the one with its payload number in place. -/
def add (t : FormatTable) (f : Format) : FormatTable :=
  ⟨insertInto f t.toList⟩

/-- Adds formats one by one. -/
def addAll (t : FormatTable) (fs : List Format) : FormatTable :=
  fs.foldl add t

/-- The table made by adding formats one by one. -/
def ofList (fs : List Format) : FormatTable :=
  empty.addAll fs

/-- The format with a payload number. -/
def find? (t : FormatTable) (payloadType : UInt8) : Option Format :=
  t.toList.find? fun f => f.payloadType = payloadType

/-- The table without the format of a payload number. -/
def remove (t : FormatTable) (payloadType : UInt8) : FormatTable :=
  ⟨t.toList.eraseP fun f => f.payloadType = payloadType⟩

/-- The first format with the encoding of `f`. -/
def findMatching? (t : FormatTable) (f : Format) : Option Format :=
  t.toList.find? fun g => g.sameEncoding f

/-- Whether some format has the encoding of `f`. -/
def supports (t : FormatTable) (f : Format) : Bool :=
  (t.findMatching? f).isSome

/-- The formats of `t` whose encoding `u` supports too, with the order and the payload numbers
of `t`. -/
def intersection (t u : FormatTable) : FormatTable :=
  ofList (t.toList.filter u.supports)

/-- The preferred format among those that are not telephone events. -/
def media? (t : FormatTable) : Option Format :=
  t.toList.find? fun f => !f.isTelephoneEvent

/-- The preferred format of telephone events. -/
def telephoneEvent? (t : FormatTable) : Option Format :=
  t.toList.find? Format.isTelephoneEvent

/-- Whether there is a format other than telephone events. -/
def hasMedia (t : FormatTable) : Bool :=
  t.toList.any fun f => !f.isTelephoneEvent

/-- The payload numbers in order. -/
def payloadTypes (t : FormatTable) : List UInt8 :=
  t.toList.map Format.payloadType

/-- The number of formats. -/
def size (t : FormatTable) : Nat := t.toList.length

/-- Whether there is no format. -/
def isEmpty (t : FormatTable) : Bool := t.toList.isEmpty

end FormatTable

end MediaGateway
