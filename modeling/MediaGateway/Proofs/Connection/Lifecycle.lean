import MediaGateway.Connection.Lifecycle

/-!
# The time of a life

What an operation makes of the life of a connection is one `Lifecycle.Step`, and every step keeps it
sound: time is counted exactly in the states in which it is limited, and the heartbeat is armed
exactly while time is counted. A step never brings a life back to where it was (`Advances`): it has
to be bound anew for that, which is counted.
-/

namespace MediaGateway

theorem Timeouts.ttl_pos {t : Timeouts} {s : ConnectionState} {resolution : UInt32} :
    0 < t.ttl s resolution ↔ t.seconds s ≠ 0 := by
  simp only [Timeouts.ttl]
  split <;> simp_all

theorem Timeouts.isBound_of_seconds {t : Timeouts} {s : ConnectionState} (h : t.seconds s ≠ 0) :
    s.isBound = true := by
  cases s with
  | null => exact absurd rfl h
  | halfOpen => rfl
  | opened => rfl

theorem Timeouts.ttl_null (t : Timeouts) (resolution : UInt32) : t.ttl .null resolution = 0 := rfl

namespace Lifecycle

variable {t : Timeouts} {r : UInt32} {l l' l'' : Lifecycle}

/-! ## Entering a state -/

section Enter

variable (l : Lifecycle) (t : Timeouts) (r : UInt32) (s : ConnectionState)

theorem enter_cases :
    (0 < t.ttl s r ∧ l.armed = true ∧
      l.enter t r s = ({ l with state := s, ttl := t.ttl s r }, none)) ∨
    (0 < t.ttl s r ∧ l.armed = false ∧
      l.enter t r s = ({ l with state := s, ttl := t.ttl s r, epoch := l.epoch + 1, armed := true },
        some (l.epoch + 1))) ∨
    (t.ttl s r = 0 ∧ l.armed = false ∧
      l.enter t r s = ({ l with state := s, ttl := 0 }, none)) ∨
    (t.ttl s r = 0 ∧ l.armed = true ∧
      l.enter t r s = ({ l with state := s, ttl := 0, epoch := l.epoch + 1, armed := false }, none)) := by
  simp only [enter, rearm]
  by_cases ht : t.ttl s r = 0
  · cases ha : l.armed <;> simp [ht]
  · have hpos : 0 < t.ttl s r := Nat.pos_of_ne_zero ht
    cases ha : l.armed <;> simp [ht, hpos]

@[simp] theorem enter_state : (l.enter t r s).1.state = s := by
  rcases enter_cases l t r s with ⟨-, -, h⟩ | ⟨-, -, h⟩ | ⟨-, -, h⟩ | ⟨-, -, h⟩ <;> rw [h]

@[simp] theorem enter_mode : (l.enter t r s).1.mode = l.mode := by
  rcases enter_cases l t r s with ⟨-, -, h⟩ | ⟨-, -, h⟩ | ⟨-, -, h⟩ | ⟨-, -, h⟩ <;> rw [h]

@[simp] theorem enter_generation : (l.enter t r s).1.generation = l.generation := by
  rcases enter_cases l t r s with ⟨-, -, h⟩ | ⟨-, -, h⟩ | ⟨-, -, h⟩ | ⟨-, -, h⟩ <;> rw [h]

@[simp] theorem enter_ttl : (l.enter t r s).1.ttl = t.ttl s r := by
  rcases enter_cases l t r s with ⟨-, -, h⟩ | ⟨-, -, h⟩ | ⟨ht, -, h⟩ | ⟨ht, -, h⟩ <;> simp [*]

theorem enter_armed : (l.enter t r s).1.armed = true ↔ 0 < t.ttl s r := by
  rcases enter_cases l t r s with ⟨ht, ha, h⟩ | ⟨ht, -, h⟩ | ⟨ht, ha, h⟩ | ⟨ht, -, h⟩ <;>
    simp [*]

/-- Entering `NULL` submits no heartbeats, and ends the epoch if heartbeats were counted. -/
theorem enter_null : l.enter t r .null =
    ({ l with
        state := .null
        ttl := 0
        epoch := if l.armed then l.epoch + 1 else l.epoch
        armed := false }, none) := by
  rcases enter_cases l t r .null with ⟨ht, -⟩ | ⟨ht, -⟩ | ⟨-, ha, h⟩ | ⟨-, ha, h⟩
  · simp [Timeouts.ttl_null] at ht
  · simp [Timeouts.ttl_null] at ht
  · rw [h, ha]
    rfl
  · rw [h, ha]
    rfl

end Enter

theorem refresh_state (l : Lifecycle) (t : Timeouts) (r : UInt32) :
    (l.refresh t r).state = l.state := by
  simp only [refresh]
  split <;> rfl

theorem refresh_of_bound (h : l.state.isBound = true) :
    l.refresh t r = { l with ttl := t.ttl l.state r } := by
  simp only [refresh, if_pos h]

/-- What becomes of the epoch when the heartbeat is armed or disarmed, if need be. -/
inductive Rearms (l l' : Lifecycle) : Option Nat → Prop
  | keep (hepoch : l'.epoch = l.epoch) (harmed : l'.armed = l.armed) : Rearms l l' none
  | disarm (hepoch : l'.epoch = l.epoch + 1) (harmed : l'.armed = false) : Rearms l l' none
  | arm (hepoch : l'.epoch = l.epoch + 1) (harmed : l'.armed = true) : Rearms l l' (some l'.epoch)

theorem rearms_enter (l : Lifecycle) (t : Timeouts) (r : UInt32) (s : ConnectionState) :
    l.Rearms (l.enter t r s).1 (l.enter t r s).2 := by
  rcases enter_cases l t r s with ⟨-, ha, h⟩ | ⟨-, ha, h⟩ | ⟨-, ha, h⟩ | ⟨-, ha, h⟩ <;> rw [h]
  · exact .keep rfl rfl
  · exact .arm rfl rfl
  · exact .keep rfl rfl
  · exact .disarm rfl rfl

theorem Rearms.congr {l₁ : Lifecycle} {epoch? : Option Nat} (h : l₁.Rearms l' epoch?)
    (he : l₁.epoch = l.epoch) (ha : l₁.armed = l.armed) : l.Rearms l' epoch? := by
  cases h with
  | keep hepoch harmed => exact .keep (hepoch.trans he) (harmed.trans ha)
  | disarm hepoch harmed => exact .disarm (he ▸ hepoch) harmed
  | arm hepoch harmed => exact .arm (he ▸ hepoch) harmed

/-! ## Steps -/

/-- What an operation makes of a life, with the epoch that heartbeats are submitted for. -/
inductive Step (t : Timeouts) (r : UInt32) : Lifecycle → Lifecycle → Option Nat → Prop
  | bind {l : Lifecycle} (h : l.state = .null) :
      Step t r l ({ l with generation := l.generation + 1 }.enter t r .halfOpen).1
        ({ l with generation := l.generation + 1 }.enter t r .halfOpen).2
  | open {l : Lifecycle} (h : l.state = .halfOpen) :
      Step t r l (l.enter t r .opened).1 (l.enter t r .opened).2
  /-- The connection is closed, or fails. -/
  | finish {l : Lifecycle} (h : l.state.isBound = true) :
      Step t r l ({ l with mode := .inactive }.enter t r .null).1 none
  | setMode {l : Lifecycle} (mode) (h : l.state.isBound = true) :
      Step t r l { l with mode } none

/-- What holds of a life between operations. -/
structure Sound (t : Timeouts) (l : Lifecycle) : Prop where
  /-- Time is counted where it is limited. -/
  counted : 0 < l.ttl ↔ t.seconds l.state ≠ 0
  /-- The heartbeat is armed while time is counted. -/
  armed : l.armed = true ↔ 0 < l.ttl
  /-- An idle connection lets no media through. -/
  idle : l.state = .null → l.mode = .inactive

theorem Sound.new (t : Timeouts) : Sound t {} where
  counted := by simp [Timeouts.seconds]
  armed := by simp
  idle := fun _ => rfl

theorem Sound.ttl_null (h : l.Sound t) (hs : l.state = .null) : l.ttl = 0 := by
  have hcounted := h.counted
  simpa [hs, Timeouts.seconds] using hcounted

theorem Sound.isBound (h : l.Sound t) (ht : 0 < l.ttl) : l.state.isBound = true := by
  by_cases hs : l.state = .null
  · have := h.ttl_null hs
    omega
  · simpa [ConnectionState.isBound] using hs

/-- Entering a state makes a life sound. -/
theorem Sound.enter (l : Lifecycle) (s : ConnectionState) (hidle : s = .null → l.mode = .inactive) :
    Sound t (l.enter t r s).1 where
  counted := by rw [enter_ttl, enter_state, Timeouts.ttl_pos]
  armed := by rw [enter_armed, enter_ttl]
  idle := by simpa using hidle

theorem Sound.step (h : l.Sound t) {epoch? : Option Nat} (hs : Step t r l l' epoch?) :
    l'.Sound t := by
  cases hs with
  | bind hs => exact .enter _ _ fun h => by cases h
  | «open» hs => exact .enter _ _ fun h => by cases h
  | finish hs => exact .enter _ _ fun _ => rfl
  | setMode mode hs =>
    refine ⟨h.counted, h.armed, fun hnull => ?_⟩
    simp only at hnull
    simp [hnull, ConnectionState.isBound] at hs

theorem Sound.refresh (h : l.Sound t) : (l.refresh t r).Sound t := by
  simp only [Lifecycle.refresh]
  split
  · have hpos : 0 < t.ttl l.state r ↔ 0 < l.ttl := by rw [Timeouts.ttl_pos, h.counted]
    exact ⟨hpos.trans h.counted, h.armed.trans hpos.symm, h.idle⟩
  · exact h

/-- A heartbeat that is not the last one leaves time to count. -/
theorem Sound.beat (h : l.Sound t) (ht : 1 < l.ttl) : Sound t { l with ttl := l.ttl - 1 } where
  counted := by
    have := h.counted
    simp only
    constructor
    · intro
      exact this.1 (by omega)
    · intro
      omega
  armed := by
    have := h.armed
    simp only
    constructor
    · intro
      omega
    · intro
      exact this.2 (by omega)
  idle := h.idle

theorem Step.rearms {epoch? : Option Nat} (hs : Step t r l l' epoch?) : l.Rearms l' epoch? := by
  cases hs with
  | bind hs =>
    exact (rearms_enter { l with generation := l.generation + 1 } t r .halfOpen).congr rfl rfl
  | «open» hs => exact rearms_enter l t r .opened
  | finish hs =>
    have h := (rearms_enter { l with mode := .inactive } t r .null).congr (l := l) rfl rfl
    rwa [enter_null] at h ⊢
  | setMode mode hs => exact .keep rfl rfl

/-! ## No way back -/

/-- How far a connection has come: the bindings, and how far it is in the last one. -/
def progress (l : Lifecycle) : Nat :=
  3 * l.generation + match l.state with
    | .halfOpen => 0
    | .opened => 1
    | .null => 2

/-- A life stays in its state, with the time that it had, or goes on to a state that it was never in
before, with the full time. -/
def Advances (t : Timeouts) (r : UInt32) (l l' : Lifecycle) : Prop :=
  (l'.state = l.state ∧ l'.generation = l.generation ∧ l'.ttl = l.ttl) ∨
    (l.progress < l'.progress ∧ l'.ttl = t.ttl l'.state r)

theorem Advances.refl (t : Timeouts) (r : UInt32) (l : Lifecycle) : Advances t r l l :=
  .inl ⟨rfl, rfl, rfl⟩

theorem progress_congr (hs : l'.state = l.state) (hg : l'.generation = l.generation) :
    l'.progress = l.progress := by
  rw [progress, progress, hs, hg]

/-- An idle connection can only be bound again. -/
theorem state_of_progress_le (hs : l.state = .null) (hg : l'.generation = l.generation)
    (hp : l.progress ≤ l'.progress) : l'.state = .null := by
  rw [progress, progress, hs, hg] at hp
  cases hl' : l'.state with
  | null => rfl
  | _ =>
    simp only [hl'] at hp
    omega

theorem Advances.progress_le (h : Advances t r l l') : l.progress ≤ l'.progress := by
  rcases h with ⟨hs, hg, -⟩ | ⟨hp, -⟩
  · exact Nat.le_of_eq (progress_congr hs hg).symm
  · exact Nat.le_of_lt hp

theorem Advances.trans (h : Advances t r l l') (h' : Advances t r l' l'') :
    Advances t r l l'' := by
  rcases h with ⟨hs, hg, ht⟩ | ⟨hp, ht⟩ <;> rcases h' with ⟨hs', hg', ht'⟩ | ⟨hp', ht'⟩
  · exact .inl ⟨hs'.trans hs, hg'.trans hg, ht'.trans ht⟩
  · rw [progress_congr hs hg] at hp'
    exact .inr ⟨hp', ht'⟩
  · refine .inr ⟨?_, ?_⟩
    · rwa [progress_congr hs' hg']
    · rw [ht', ht, hs']
  · exact .inr ⟨by omega, ht'⟩

theorem Step.advances {epoch? : Option Nat} (hs : Step t r l l' epoch?) : Advances t r l l' := by
  cases hs with
  | bind hs =>
    refine .inr ⟨?_, by simp⟩
    simp only [progress, enter_state, enter_generation, hs]
    omega
  | «open» hs =>
    refine .inr ⟨?_, by simp⟩
    simp only [progress, enter_state, enter_generation, hs]
    omega
  | finish hs =>
    refine .inr ⟨?_, by simp⟩
    simp only [progress, enter_state, enter_generation]
    cases hl : l.state with
    | null => simp [hl, ConnectionState.isBound] at hs
    | halfOpen => simp
    | opened => simp
  | setMode mode hs => exact .inl ⟨rfl, rfl, rfl⟩

/-- A life in the same state and the same binding as before has kept its time. -/
theorem Advances.ttl_eq (h : Advances t r l l') (hs : l'.state = l.state)
    (hg : l'.generation = l.generation) : l'.ttl = l.ttl := by
  rcases h with ⟨-, -, ht⟩ | ⟨hp, -⟩
  · exact ht
  · rw [progress_congr hs hg] at hp
    omega

/-- A life in another state or another binding than before has the full time of its state. -/
theorem Advances.ttl_full (h : Advances t r l l')
    (hne : ¬(l'.state = l.state ∧ l'.generation = l.generation)) :
    l'.ttl = t.ttl l'.state r := by
  rcases h with ⟨hs, hg, -⟩ | ⟨-, ht⟩
  · exact absurd ⟨hs, hg⟩ hne
  · exact ht

/-! ## Heartbeats -/

/-- What a heartbeat makes of a life: it is counted, and the last one ends the binding. -/
def afterHeartbeat (l : Lifecycle) : Lifecycle :=
  if l.ttl = 1 then
    { l with state := .null, mode := .inactive, ttl := 0, epoch := l.epoch + 1, armed := false }
  else { l with ttl := l.ttl - 1 }

/-- Where no time is counted, a heartbeat changes nothing. -/
theorem afterHeartbeat_of_zero (h : l.ttl = 0) : l.afterHeartbeat = l := by
  rw [afterHeartbeat, if_neg (by omega), show l.ttl - 1 = l.ttl by omega]

theorem beat_of_stale {epoch : Nat} (h : ¬(l.armed = true ∧ l.epoch = epoch)) :
    l.beat epoch = (.stale, l) := by
  simp only [beat]
  rw [if_pos]
  by_cases ha : l.armed = true
  · have hne : l.epoch ≠ epoch := fun he => h ⟨ha, he⟩
    simp [hne]
  · simp [ha]

theorem beat_of_current (h : l.armed = true) :
    l.beat l.epoch = (if 1 < l.ttl then .alive else .expired, { l with ttl := l.ttl - 1 }) := by
  simp [beat, h]

/-- The end of a binding in which time is counted is what the last heartbeat makes of it. -/
theorem finish_eq_afterHeartbeat (ha : l.armed = true) (ht : l.ttl = 1) :
    ({ l with mode := .inactive }.enter t r .null).1 = l.afterHeartbeat := by
  rw [enter_null, afterHeartbeat, if_pos ht]
  simp [ha]

end Lifecycle

end MediaGateway
