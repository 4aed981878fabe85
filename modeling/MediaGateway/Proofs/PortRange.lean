import MediaGateway.PortRange
import Mathlib.Data.List.Nodup
import Mathlib.Data.List.Perm.Subperm
import Mathlib.Data.Nat.ModEq

/-!
# Ports in turn

A range hands out the port of the slot that its cursor points to, modulo the number of slots. The
cursor is a word, so after 2 ^ 32 ports it is back at zero, and this need not be a multiple of the
number of slots: then the turn is cut short there, and the ports of the first slots come again before
those of the last ones. Everywhere else each port of the range comes once in a turn.

The last word of 16 bits has no even number above it. A range that begins with it consists of it.
-/

namespace MediaGateway.PortRange

/-! ## Handing out ports -/

/-- The range when `n` ports have been handed out. -/
def after (r : PortRange) : Nat → PortRange
  | 0 => r
  | n + 1 => r.next.2.after n

/-- The `n` ports that are handed out next. -/
def ports (r : PortRange) : Nat → List UInt16
  | 0 => []
  | n + 1 => r.next.1 :: r.next.2.ports n

/-- The slot whose turn it is after `i` more ports. -/
def turn (r : PortRange) (i : Nat) : Nat :=
  (r.cursor.toNat + i) % 2 ^ 32 % r.slots

/-- The last slot still belongs to a port. -/
structure IsSound (r : PortRange) : Prop where
  /-- There is a slot. -/
  slots_pos : 0 < r.slots
  /-- The port of the last slot fits the word. -/
  last_lt : r.low.toNat + 2 * (r.slots - 1) < 2 ^ 16

variable {r : PortRange}

theorem IsSound.turn_lt (h : r.IsSound) (i : Nat) : r.turn i < r.slots :=
  Nat.mod_lt _ h.slots_pos

theorem toNat_cursor_next (r : PortRange) :
    r.next.2.cursor.toNat = (r.cursor.toNat + 1) % 2 ^ 32 :=
  UInt32.toNat_add _ _

theorem turn_next (r : PortRange) (i : Nat) : r.next.2.turn i = r.turn (i + 1) := by
  have hslots : r.next.2.slots = r.slots := rfl
  unfold turn
  rw [toNat_cursor_next, hslots, Nat.mod_add_mod, Nat.add_assoc, Nat.add_comm 1 i]

/-- The ports that come next are those of the slots whose turn it is. -/
theorem ports_eq (r : PortRange) (n : Nat) :
    r.ports n = (List.range n).map fun i => r.port (r.turn i) := by
  induction n generalizing r with
  | zero => rfl
  | succ n ih =>
    have hfirst : r.next.1 = r.port (r.turn 0) := by
      show r.port (r.cursor.toNat % r.slots) = _
      rw [turn, Nat.add_zero, Nat.mod_eq_of_lt r.cursor.toNat_lt]
    have hrest : ∀ i, r.next.2.port (r.next.2.turn i) = r.port (r.turn (i + 1)) := by
      intro i
      rw [turn_next]
      rfl
    rw [ports, ih, List.range_succ_eq_map, List.map_cons, List.map_map, hfirst]
    simp only [hrest, Function.comp_def, Nat.succ_eq_add_one]

theorem low_after (r : PortRange) (n : Nat) : (r.after n).low = r.low := by
  induction n generalizing r with
  | zero => rfl
  | succ n ih => exact ih r.next.2

theorem slots_after (r : PortRange) (n : Nat) : (r.after n).slots = r.slots := by
  induction n generalizing r with
  | zero => rfl
  | succ n ih => exact ih r.next.2

theorem port_after (r : PortRange) (n slot : Nat) : (r.after n).port slot = r.port slot := by
  unfold port
  rw [low_after]

/-- The cursor counts the ports, modulo the size of the word. -/
theorem toNat_cursor_after (r : PortRange) (n : Nat) :
    (r.after n).cursor.toNat = (r.cursor.toNat + n) % 2 ^ 32 := by
  induction n generalizing r with
  | zero => exact (Nat.mod_eq_of_lt r.cursor.toNat_lt).symm
  | succ n ih =>
    rw [after, ih, toNat_cursor_next, Nat.mod_add_mod, Nat.add_assoc, Nat.add_comm 1 n]

theorem IsSound.after (h : r.IsSound) (n : Nat) : (r.after n).IsSound := by
  constructor
  · rw [slots_after]
    exact h.slots_pos
  · rw [slots_after, low_after]
    exact h.last_lt

/-! ## Slots and ports -/

theorem IsSound.toNat_port (h : r.IsSound) {slot : Nat} (hslot : slot < r.slots) :
    (r.port slot).toNat = r.low.toNat + 2 * slot := by
  have hlast := h.last_lt
  unfold port
  rw [UInt16.toNat_add, UInt16.toNat_ofNat', Nat.add_mod_mod]
  exact Nat.mod_eq_of_lt (by omega)

/-- The slot of a port. -/
def slotOf (r : PortRange) (p : UInt16) : Nat :=
  (p.toNat - r.low.toNat) / 2

theorem IsSound.slotOf_port (h : r.IsSound) {slot : Nat} (hslot : slot < r.slots) :
    r.slotOf (r.port slot) = slot := by
  unfold slotOf
  rw [h.toNat_port hslot]
  omega

theorem IsSound.map_slotOf (h : r.IsSound) {slots : List Nat} (hslots : ∀ s ∈ slots, s < r.slots) :
    (slots.map r.port).map r.slotOf = slots := by
  rw [List.map_map]
  refine (List.map_congr_left fun slot hslot => ?_).trans (List.map_id slots)
  exact h.slotOf_port (hslots slot hslot)

theorem IsSound.nodup_ports (h : r.IsSound) : ((List.range r.slots).map r.port).Nodup := by
  refine List.Nodup.of_map r.slotOf ?_
  rw [h.map_slotOf fun slot => List.mem_range.1]
  exact List.nodup_range

/-! ## A turn of all slots -/

/-- Counting on from anywhere reaches every remainder once in a turn. -/
theorem perm_range_of_add_mod {slots : Nat} (hslots : 0 < slots) (start : Nat) :
    ((List.range slots).map fun i => (start + i) % slots).Perm (List.range slots) := by
  have hnodup : ((List.range slots).map fun i => (start + i) % slots).Nodup := by
    refine List.Nodup.map_on (fun i hi j hj hij => ?_) List.nodup_range
    have hmod : i ≡ j [MOD slots] := Nat.ModEq.add_left_cancel' start hij
    exact hmod.eq_of_lt_of_lt (List.mem_range.1 hi) (List.mem_range.1 hj)
  have hsubset : ((List.range slots).map fun i => (start + i) % slots) ⊆ List.range slots := by
    intro slot hslot
    obtain ⟨i, -, rfl⟩ := List.mem_map.1 hslot
    exact List.mem_range.2 (Nat.mod_lt _ hslots)
  exact (List.subperm_of_subset hnodup hsubset).perm_of_length_le (by simp)

/-- A counter that passes `size` on the way reaches a remainder twice, or leaves one out. -/
theorem not_perm_range_of_wrap {start slots size : Nat} (hstart : start < size)
    (hwrap : size < start + slots) (hdvd : ¬slots ∣ size) :
    ¬((List.range slots).map fun i => (start + i) % size % slots).Perm (List.range slots) := by
  intro hperm
  have hrest : 0 < size % slots := Nat.pos_of_ne_zero fun h => hdvd (Nat.dvd_of_mod_eq_zero h)
  have hrest_lt : size % slots < slots := Nat.mod_lt size (by omega)
  have hsize : slots * (size / slots) + size % slots = size := Nat.div_add_mod size slots
  have hmultiple : slots * (size / slots) % slots = 0 := Nat.mul_mod_right _ _
  have hshift : ∀ k < slots, (slots * (size / slots) + k) % slots = k := fun k hk => by
    rw [Nat.mul_add_mod, Nat.mod_eq_of_lt hk]
  generalize slots * (size / slots) = multiple at hsize hmultiple hshift
  by_cases hlate : start ≤ multiple
  · -- The first slot has its turn at the last multiple of `slots` and again at the wrap.
    have hinj := List.inj_on_of_nodup_map (hperm.nodup_iff.2 List.nodup_range)
    have hfirst : (start + (multiple - start)) % size % slots = 0 := by
      rw [Nat.add_sub_cancel' hlate, Nat.mod_eq_of_lt (show multiple < size by omega), hmultiple]
    have hagain : (start + (size - start)) % size % slots = 0 := by
      rw [Nat.add_sub_cancel' hstart.le, Nat.mod_self, Nat.zero_mod]
    have hsame := hinj (List.mem_range.2 (by omega)) (List.mem_range.2 (by omega))
      (hfirst.trans hagain.symm)
    omega
  · -- The last slot has had its turn before `start`, and has it again only after this one is over.
    have hlast : slots - 1 ∈ List.range slots := List.mem_range.2 (by omega)
    obtain ⟨i, hi, hturn⟩ := List.mem_map.1 (hperm.mem_iff.2 hlast)
    rw [List.mem_range] at hi
    by_cases hbefore : start + i < size
    · have hplace : (start + i) % slots = start + i - multiple := by
        rw [← hshift (start + i - multiple) (by omega)]
        congr 1
        omega
      rw [Nat.mod_eq_of_lt hbefore, hplace] at hturn
      omega
    · have hplace : (start + i) % size ≤ start + i - size := by
        rw [Nat.mod_eq_sub_mod (Nat.le_of_not_lt hbefore)]
        exact Nat.mod_le _ size
      have hslot : (start + i) % size % slots ≤ (start + i) % size := Nat.mod_le _ slots
      omega

/-- A turn of all slots has each of them once if and only if the cursor does not pass the end of its
word in it, or loses nothing there. -/
theorem IsSound.perm_turns_iff (h : r.IsSound) :
    ((List.range r.slots).map r.turn).Perm (List.range r.slots) ↔
      r.cursor.toNat + r.slots ≤ 2 ^ 32 ∨ r.slots ∣ 2 ^ 32 := by
  constructor
  · intro hperm
    by_contra hnot
    obtain ⟨hwrap, hdvd⟩ := not_or.1 hnot
    exact not_perm_range_of_wrap r.cursor.toNat_lt (Nat.lt_of_not_le hwrap) hdvd hperm
  · intro hor
    have hturn : ∀ i ∈ List.range r.slots, r.turn i = (r.cursor.toNat + i) % r.slots := by
      intro i hi
      rw [List.mem_range] at hi
      unfold turn
      rcases hor with hbefore | hdvd
      · have hlt : r.cursor.toNat + i < 2 ^ 32 := by omega
        rw [Nat.mod_eq_of_lt hlt]
      · exact Nat.mod_mod_of_dvd _ hdvd
    rw [List.map_congr_left hturn]
    exact perm_range_of_add_mod h.slots_pos r.cursor.toNat

theorem IsSound.perm_ports_iff (h : r.IsSound) :
    (r.ports r.slots).Perm ((List.range r.slots).map r.port) ↔
      r.cursor.toNat + r.slots ≤ 2 ^ 32 ∨ r.slots ∣ 2 ^ 32 := by
  have hports : r.ports r.slots = ((List.range r.slots).map r.turn).map r.port := by
    rw [ports_eq, List.map_map]
    rfl
  have hturns : ∀ slot ∈ (List.range r.slots).map r.turn, slot < r.slots := by
    intro slot hslot
    obtain ⟨i, -, rfl⟩ := List.mem_map.1 hslot
    exact h.turn_lt i
  rw [← h.perm_turns_iff, hports]
  constructor
  · intro hperm
    have hslots := hperm.map r.slotOf
    rwa [h.map_slotOf hturns, h.map_slotOf fun slot => List.mem_range.1] at hslots
  · exact fun hperm => hperm.map r.port

/-! ## The even ports of a range -/

/-- The even ports from `low` to `high`, or to the first even number from `low` on if that is
higher. -/
def evenPorts (low high : UInt16) : List UInt16 :=
  ((List.range (2 ^ 16)).map UInt16.ofNat).filter fun p =>
    p.toNat % 2 = 0 ∧ low ≤ p ∧ p.toNat ≤ max high.toNat (low.toNat + low.toNat % 2)

variable {low high : UInt16}

theorem mem_evenPorts {p : UInt16} :
    p ∈ evenPorts low high ↔ p.toNat % 2 = 0 ∧ low.toNat ≤ p.toNat ∧
      p.toNat ≤ max high.toNat (low.toNat + low.toNat % 2) := by
  have hall : p ∈ (List.range (2 ^ 16)).map UInt16.ofNat :=
    List.mem_map.2 ⟨p.toNat, List.mem_range.2 p.toNat_lt, UInt16.ofNat_toNat⟩
  simp only [evenPorts, List.mem_filter, hall, true_and, decide_eq_true_eq, UInt16.le_iff_toNat_le]

theorem nodup_evenPorts (low high : UInt16) : (evenPorts low high).Nodup := by
  refine List.Nodup.filter _ (List.Nodup.map_on (fun m hm n hn hmn => ?_) List.nodup_range)
  rw [List.mem_range] at hm hn
  have hnat := congrArg UInt16.toNat hmn
  rwa [UInt16.toNat_ofNat_of_lt' hm, UInt16.toNat_ofNat_of_lt' hn] at hnat

/-! ## A new range -/

theorem toNat_roundUp (low : UInt16) :
    (roundUp low).toNat = min 65535 (low.toNat + low.toNat % 2) := by
  have hlow := low.toNat_lt
  have hodd : low % 2 = 1 ↔ low.toNat % 2 = 1 := by
    rw [← UInt16.toNat_inj, UInt16.toNat_mod]
    rfl
  have hbelow : low < 65535 ↔ low.toNat < 65535 := UInt16.lt_iff_toNat_lt
  unfold roundUp
  by_cases h : low % 2 = 1 ∧ low < 65535
  · obtain ⟨hl, hb⟩ := h
    rw [if_pos ⟨hl, hb⟩, UInt16.toNat_add]
    rw [hodd] at hl
    rw [hbelow] at hb
    show (low.toNat + 1) % 2 ^ 16 = _
    omega
  · rw [if_neg h]
    rw [hodd, hbelow] at h
    omega

theorem slots_make (low high : UInt16) :
    (make low high).slots = (high.toNat - (roundUp low).toNat) / 2 + 1 := by
  show (max high (roundUp low) - roundUp low).toNat / 2 + 1 = _
  have hmax : max high (roundUp low) = if high ≤ roundUp low then roundUp low else high := rfl
  rw [hmax]
  by_cases hle : high ≤ roundUp low
  · rw [if_pos hle, UInt16.sub_self]
    rw [UInt16.le_iff_toNat_le] at hle
    rw [Nat.sub_eq_zero_of_le hle]
    rfl
  · have hge : roundUp low ≤ high := by
      rw [UInt16.le_iff_toNat_le] at hle ⊢
      omega
    rw [if_neg hle, UInt16.toNat_sub_of_le _ _ hge]

theorem isSound_make (low high : UInt16) : (make low high).IsSound := by
  have hlow : (make low high).low = roundUp low := rfl
  have hround := (roundUp low).toNat_lt
  have hhigh := high.toNat_lt
  constructor
  · rw [slots_make]
    omega
  · rw [slots_make, hlow]
    omega

theorem toNat_port_make {slot : Nat} (h : slot < (make low high).slots) :
    ((make low high).port slot).toNat = (roundUp low).toNat + 2 * slot :=
  (isSound_make low high).toNat_port h

theorem mem_ports_make {p : UInt16} :
    p ∈ (List.range (make low high).slots).map (make low high).port ↔
      ∃ slot < (make low high).slots, p.toNat = (roundUp low).toNat + 2 * slot := by
  rw [List.mem_map]
  constructor
  · rintro ⟨slot, hslot, rfl⟩
    rw [List.mem_range] at hslot
    exact ⟨slot, hslot, toNat_port_make hslot⟩
  · rintro ⟨slot, hslot, hp⟩
    refine ⟨slot, List.mem_range.2 hslot, UInt16.toNat_inj.1 ?_⟩
    rw [toNat_port_make hslot, hp]

/-- But for a range that begins with the last word, the slots are those of the even ports. -/
theorem perm_evenPorts (h : low ≠ 65535) :
    ((List.range (make low high).slots).map (make low high).port).Perm (evenPorts low high) := by
  have hlow := low.toNat_lt
  have hne : low.toNat ≠ 65535 := fun he => h (UInt16.toNat_inj.1 he)
  refine (List.perm_ext_iff_of_nodup (isSound_make low high).nodup_ports
    (nodup_evenPorts low high)).2 fun p => ?_
  rw [mem_ports_make, mem_evenPorts, slots_make, toNat_roundUp]
  constructor
  · rintro ⟨slot, hslot, hp⟩
    omega
  · rintro ⟨heven, hlower, hupper⟩
    exact ⟨(p.toNat - (low.toNat + low.toNat % 2)) / 2, by omega, by omega⟩

theorem evenPorts_last (high : UInt16) : evenPorts 65535 high = [] := by
  apply List.eq_nil_iff_forall_not_mem.2
  intro p hp
  obtain ⟨heven, hlower, -⟩ := mem_evenPorts.1 hp
  have hp' := p.toNat_lt
  have hlast : (65535 : UInt16).toNat = 65535 := rfl
  omega

/-! ## The turn of a port -/

theorem toNat_cursor_make (low high : UInt16) (n : Nat) :
    ((make low high).after n).cursor.toNat = n % 2 ^ 32 := by
  rw [toNat_cursor_after]
  exact congrArg (· % 2 ^ 32) (Nat.zero_add n)

theorem toNat_next_make (low high : UInt16) (n : Nat) :
    ((make low high).after n).next.1.toNat =
      (roundUp low).toNat + 2 * (n % 2 ^ 32 % (make low high).slots) := by
  have hslot : n % 2 ^ 32 % (make low high).slots < (make low high).slots :=
    Nat.mod_lt _ (isSound_make low high).slots_pos
  rw [← toNat_port_make hslot, ← toNat_cursor_make low high n, ← slots_after _ n, ← port_after _ n]
  rfl

/-- The ports lie between the first even number and the end of the range. -/
theorem next_make_bounds (low high : UInt16) (n : Nat) :
    (roundUp low).toNat ≤ ((make low high).after n).next.1.toNat ∧
      ((make low high).after n).next.1.toNat ≤ max high.toNat (roundUp low).toNat := by
  have hslot : n % 2 ^ 32 % (make low high).slots < (make low high).slots :=
    Nat.mod_lt _ (isSound_make low high).slots_pos
  have hslots := slots_make low high
  rw [toNat_next_make]
  constructor <;> omega

/-- The calls that hand out as many ports as the range has even ones. -/
theorem perm_evenPorts_iff (low high : UInt16) (n : Nat) :
    (((make low high).after n).ports (evenPorts low high).length).Perm (evenPorts low high) ↔
      n % 2 ^ 32 + (evenPorts low high).length ≤ 2 ^ 32 ∨ (evenPorts low high).length ∣ 2 ^ 32 := by
  by_cases hlow : low = 65535
  · have hcount : n % 2 ^ 32 < 2 ^ 32 := Nat.mod_lt n (by decide)
    rw [hlow, evenPorts_last]
    exact iff_of_true .nil (.inl hcount.le)
  · have hperm : ((List.range (make low high).slots).map (make low high).port).Perm
        (evenPorts low high) := perm_evenPorts hlow
    have hlength : (evenPorts low high).length = ((make low high).after n).slots := by
      rw [slots_after, ← hperm.length_eq, List.length_map, List.length_range]
    rw [hlength, ← toNat_cursor_make low high n,
      ← ((isSound_make low high).after n).perm_ports_iff, slots_after,
      funext (port_after (make low high) n)]
    exact ⟨fun h => h.trans hperm.symm, fun h => h.trans hperm⟩

/-- Each port that is handed out lies in the range and is even, unless the range begins with the last
word, which is handed out then. In as many calls as there are even ports each of them is handed out
once if and only if the cursor does not pass the end of its word meanwhile, or the number of ports
divides the size of the word. -/
theorem ports_in_turn (low high : UInt16) (n : Nat) :
    let r := (make low high).after n
    let evens := evenPorts low high
    r.peek = r.next.1 ∧
    low ≤ r.next.1 ∧ r.next.1.toNat ≤ max high.toNat (low.toNat + low.toNat % 2) ∧
    (r.next.1.toNat % 2 = 0 ↔ low ≠ 65535) ∧
    ((r.ports evens.length).Perm evens ↔
      n % 2 ^ 32 + evens.length ≤ 2 ^ 32 ∨ evens.length ∣ 2 ^ 32) := by
  intro r evens
  have hlow := low.toNat_lt
  have hround := toNat_roundUp low
  have hnext : r.next.1.toNat = (roundUp low).toNat + 2 * (n % 2 ^ 32 % (make low high).slots) :=
    toNat_next_make low high n
  have hbounds : (roundUp low).toNat ≤ r.next.1.toNat ∧
      r.next.1.toNat ≤ max high.toNat (roundUp low).toNat := next_make_bounds low high n
  refine ⟨rfl, ?_, ?_, ?_, perm_evenPorts_iff low high n⟩
  · rw [UInt16.le_iff_toNat_le]
    omega
  · omega
  · have hlast : low = 65535 ↔ low.toNat = 65535 := by
      rw [← UInt16.toNat_inj]
      rfl
    rw [Ne, hlast]
    omega

/-- A range that begins with the last word hands out this odd port. A range of three ports, from which
2 ^ 32 - 1 ports have come, hands out the first one, the first one again and the second one. -/
theorem odd_port_and_broken_turn :
    (make 65535 65535).next.1.toNat % 2 = 1 ∧
    (evenPorts 5001 5006).length = 3 ∧ 5006 ∈ evenPorts 5001 5006 ∧
    ((make 5001 5006).after (2 ^ 32 - 1)).ports 3 = [5002, 5002, 5004] := by
  have hlength : (evenPorts 5001 5006).length = 3 := by
    have hperm : ((List.range (make 5001 5006).slots).map (make 5001 5006).port).Perm
        (evenPorts 5001 5006) := perm_evenPorts (by decide)
    exact hperm.length_eq.symm
  have hcursor := toNat_cursor_after (make 5001 5006) (2 ^ 32 - 1)
  have hturn : ∀ i, ((make 5001 5006).after (2 ^ 32 - 1)).turn i = (2 ^ 32 - 1 + i) % 2 ^ 32 % 3 := by
    intro i
    unfold turn
    rw [hcursor, slots_after]
    rfl
  refine ⟨by decide, hlength, mem_evenPorts.2 (by decide), ?_⟩
  rw [ports_eq]
  simp only [port_after, hturn]
  decide

end MediaGateway.PortRange
