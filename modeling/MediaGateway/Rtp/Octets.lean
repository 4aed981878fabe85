/-!
# Words on the wire

Network protocols send a word as its bytes, the most significant one first. The joining functions
undo the splitting ones and the other way round.
-/

namespace MediaGateway.Octets

/-- The two bytes of a 16-bit word. -/
def ofUInt16 (w : UInt16) : List UInt8 :=
  [UInt8.ofNat (w.toNat / 0x100), UInt8.ofNat w.toNat]

/-- The four bytes of a 32-bit word. -/
def ofUInt32 (w : UInt32) : List UInt8 :=
  [UInt8.ofNat (w.toNat / 0x1000000), UInt8.ofNat (w.toNat / 0x10000), UInt8.ofNat (w.toNat / 0x100),
    UInt8.ofNat w.toNat]

/-- The 16-bit word sent as `a b`. -/
def toUInt16 (a b : UInt8) : UInt16 :=
  UInt16.ofNat (a.toNat * 0x100 + b.toNat)

/-- The 32-bit word sent as `a b c d`. -/
def toUInt32 (a b c d : UInt8) : UInt32 :=
  UInt32.ofNat (a.toNat * 0x1000000 + b.toNat * 0x10000 + c.toNat * 0x100 + d.toNat)

theorem ofUInt16_toUInt16 (a b : UInt8) : ofUInt16 (toUInt16 a b) = [a, b] := by
  have ha := a.toNat_lt
  have hb := b.toNat_lt
  have hw : (toUInt16 a b).toNat = a.toNat * 0x100 + b.toNat := by
    rw [toUInt16, UInt16.toNat_ofNat_of_lt']
    simp only [UInt16.size]
    omega
  simp only [ofUInt16, hw, List.cons.injEq, and_true, ← UInt8.toNat_inj, UInt8.toNat_ofNat']
  omega

theorem ofUInt32_toUInt32 (a b c d : UInt8) : ofUInt32 (toUInt32 a b c d) = [a, b, c, d] := by
  have ha := a.toNat_lt
  have hb := b.toNat_lt
  have hc := c.toNat_lt
  have hd := d.toNat_lt
  have hw : (toUInt32 a b c d).toNat =
      a.toNat * 0x1000000 + b.toNat * 0x10000 + c.toNat * 0x100 + d.toNat := by
    rw [toUInt32, UInt32.toNat_ofNat_of_lt']
    simp only [UInt32.size]
    omega
  simp only [ofUInt32, hw, List.cons.injEq, and_true, ← UInt8.toNat_inj, UInt8.toNat_ofNat']
  omega

/-- The word that two bytes were split from. -/
@[simp] theorem toUInt16_split (w : UInt16) :
    toUInt16 (UInt8.ofNat (w.toNat / 0x100)) (UInt8.ofNat w.toNat) = w := by
  have hw := w.toNat_lt
  simp only [toUInt16, UInt8.toNat_ofNat', ← UInt16.toNat_inj, UInt16.toNat_ofNat']
  omega

/-- The word that four bytes were split from. -/
@[simp] theorem toUInt32_split (w : UInt32) :
    toUInt32 (UInt8.ofNat (w.toNat / 0x1000000)) (UInt8.ofNat (w.toNat / 0x10000))
      (UInt8.ofNat (w.toNat / 0x100)) (UInt8.ofNat w.toNat) = w := by
  have hw := w.toNat_lt
  simp only [toUInt32, UInt8.toNat_ofNat', ← UInt32.toNat_inj, UInt32.toNat_ofNat']
  omega

end MediaGateway.Octets
