import MediaGateway.Proofs.Gateway.Effect

/-!
# Standing, peers and inboxes

Where a connection stands is its state, its mode and how often it was bound. Together with the peer
and the inbox of its link this is all that matters for what links are there and what is read from
them. This module says what the few effects of actions make of the three.
-/

namespace MediaGateway

/-- Where a connection stands. -/
structure Stand where
  state : ConnectionState
  mode : Mode
  /-- How often it was bound. -/
  generation : Nat
deriving DecidableEq

namespace Stand

/-- Where a connection stands after an event. -/
def after (s : Stand) : StateEvent → Stand
  | .binding => { s with state := .halfOpen, generation := s.generation + 1 }
  | .opening => { s with state := .opened }
  | .closing | .failing => { s with state := .null, mode := .inactive }

@[simp] theorem state_after (s : Stand) (event : StateEvent) :
    (s.after event).state = event.target := by
  cases event <;> rfl

end Stand

/-- Where the connection with a life stands. -/
def Lifecycle.stand (l : Lifecycle) : Stand := ⟨l.state, l.mode, l.generation⟩

namespace Gateway

variable {g g' g'' : Gateway} {handle : Nat} {c : Connection} {event : StateEvent}

/-- Where the connection at a place stands. -/
def stand? (g : Gateway) (handle : Nat) : Option Stand :=
  (g.front? handle).map fun f => f.life.stand

/-- The state of the connection at a place. -/
def state? (g : Gateway) (handle : Nat) : Option ConnectionState :=
  (g.stand? handle).map Stand.state

/-- What the link at a place has for a peer, whether this one lives or not. -/
def slot? (g : Gateway) (handle : Nat) : Option Nat :=
  (g.link? handle).bind Link.peer

/-- The frames that wait at a place to be read. -/
def inbox (g : Gateway) (handle : Nat) : List Frame :=
  ((g.link? handle).map Link.inbox).getD []

/-- The connection that the one at a place is linked to. -/
def peerOf? (g : Gateway) (handle : Nat) : Option Nat :=
  (g.get? handle).bind fun c => (g.peer? c).map Prod.fst

theorem stand?_of_get? (hc : g.get? handle = some c) : g.stand? handle = some c.life.stand := by
  rw [stand?, front?_of_get? hc]
  rfl

theorem state?_of_get? (hc : g.get? handle = some c) : g.state? handle = some c.life.state := by
  rw [state?, stand?_of_get? hc]
  rfl

theorem state?_of_stand? {s : Stand} (hs : g.stand? handle = some s) :
    g.state? handle = some s.state := by
  rw [state?, hs]
  rfl

theorem exists_stand? {s : ConnectionState} (hs : g.state? handle = some s) :
    ∃ t, g.stand? handle = some t ∧ t.state = s :=
  Option.map_eq_some_iff.1 hs

theorem get?_of_stand? {s : Stand} (hs : g.stand? handle = some s) :
    ∃ c, g.get? handle = some c ∧ c.life.stand = s := by
  obtain ⟨f, hf, hs⟩ := Option.map_eq_some_iff.1 hs
  obtain ⟨c, hc, rfl⟩ := get?_of_front? hf
  exact ⟨c, hc, hs⟩

theorem isSome_stand? (g : Gateway) (handle : Nat) :
    (g.stand? handle).isSome = (g.get? handle).isSome := by
  rw [stand?, front?, Option.isSome_map, Option.isSome_map]

theorem lt_of_stand? {s : Stand} (hs : g.stand? handle = some s) :
    handle < g.connections.length := by
  obtain ⟨c, hc, -⟩ := get?_of_stand? hs
  exact lt_of_get? hc

theorem isSome_of_state? {s : ConnectionState} (hs : g.state? handle = some s) :
    (g.stand? handle).isSome := by
  obtain ⟨t, ht, -⟩ := exists_stand? hs
  rw [ht]
  rfl

theorem stand?_of_slot? {p : Nat} (hp : g.slot? handle = some p) :
    (g.stand? handle).isSome := by
  rw [isSome_stand?]
  cases hc : g.get? handle with
  | none => simp [slot?, link?, hc] at hp
  | some c => rfl

theorem peerOf?_eq_some {a b : Nat} :
    g.peerOf? a = some b ↔ g.slot? a = some b ∧ (g.stand? b).isSome := by
  have hpeer (c : Connection) : (g.peer? c).map Prod.fst = some b ↔
      c.link?.bind Link.peer = some b ∧ (g.get? b).isSome := by
    cases hl : c.link?.bind Link.peer with
    | none => simp [peer?, hl]
    | some p =>
      cases hp : g.get? p with
      | none =>
        simp only [peer?, hl, Option.bind_some, hp, Option.map_none, Option.some.injEq,
          reduceCtorEq, false_iff, not_and]
        rintro rfl
        simp [hp]
      | some d =>
        simp only [peer?, hl, Option.bind_some, hp, Option.map_some, Option.some.injEq]
        constructor
        · rintro rfl
          simp [hp]
        · exact And.left
  rw [isSome_stand?]
  cases hc : g.get? a with
  | none => simp [peerOf?, slot?, link?, hc]
  | some c =>
    simp only [peerOf?, slot?, link?, hc, Option.bind_some]
    exact hpeer c

/-! ## Aside -/

theorem stand?_of_untimed {k : Nat}
    (h : (g'.front? k).map Front.untimed = (g.front? k).map Front.untimed) :
    g'.stand? k = g.stand? k := by
  have hstand := congrArg (Option.map fun f : Front => f.life.stand) h
  rw [Option.map_map, Option.map_map] at hstand
  exact hstand

theorem slot?_of_link? {k : Nat} (h : g'.link? k = g.link? k) : g'.slot? k = g.slot? k := by
  rw [slot?, h, slot?]

theorem inbox_of_link? {k : Nat} (h : g'.link? k = g.link? k) : g'.inbox k = g.inbox k := by
  rw [inbox, h, inbox]

/-- Where all connections stand, with whom they are linked and what waits for them is as before. -/
structure SameStanding (g g' : Gateway) : Prop where
  stand : ∀ k, g'.stand? k = g.stand? k
  slot : ∀ k, g'.slot? k = g.slot? k
  inbox : ∀ k, g'.inbox k = g.inbox k
  places : g'.connections.length = g.connections.length

theorem Aside.sameStanding (h : Aside g g') : SameStanding g g' where
  stand := fun k => stand?_of_untimed (h.fronts k)
  slot := fun k => slot?_of_link? (h.links k)
  inbox := fun k => inbox_of_link? (h.links k)
  places := h.places

theorem SameStanding.of_setting {a : Action} (hk : a.kind = .setting) :
    SameStanding g (g.perform a) where
  stand := by
    intro k
    have hlife := (setting_perform g hk).sameLives.lives k
    have hstand := congrArg (Option.map Lifecycle.stand) hlife
    rw [life?, life?, Option.map_map, Option.map_map] at hstand
    exact hstand
  slot := fun k => slot?_of_link? ((setting_perform g hk).links k)
  inbox := fun k => inbox_of_link? ((setting_perform g hk).links k)
  places := (setting_perform g hk).sameLives.places

theorem SameStanding.clearLog (g : Gateway) : SameStanding g g.clearLog :=
  ⟨fun _ => rfl, fun _ => rfl, fun _ => rfl, rfl⟩

/-! ## Events -/

namespace Happens

theorem stand?_before (h : Happens g g' handle event c) : g.stand? handle = some c.life.stand :=
  stand?_of_get? h.get?

theorem stand? (h : Happens g g' handle event c) (k : Nat) :
    g'.stand? k = if k = handle then some (c.life.stand.after event) else g.stand? k := by
  rw [Gateway.stand?, h.fronts, Gateway.stand?]
  by_cases hk : k = handle
  · rw [if_pos hk, if_pos hk]
    cases event with
    | binding =>
      simp [frontAfter, Front.withLife, boundLife, Lifecycle.stand, Stand.after]
    | opening =>
      simp [frontAfter, Front.withLife, openedLife, Lifecycle.stand, Stand.after]
    | closing | failing =>
      simp [frontAfter, endedFront, Front.withLife, endedLife, Lifecycle.stand, Stand.after]
  · rw [if_neg hk, if_neg hk]

theorem stand?_self (h : Happens g g' handle event c) :
    g'.stand? handle = some (c.life.stand.after event) := by
  rw [h.stand?, if_pos rfl]

theorem stand?_of_ne (h : Happens g g' handle event c) {k : Nat} (hk : k ≠ handle) :
    g'.stand? k = g.stand? k := by
  rw [h.stand?, if_neg hk]

theorem state?_self (h : Happens g g' handle event c) : g'.state? handle = some event.target := by
  rw [state?, h.stand?_self]
  simp

theorem state?_of_ne (h : Happens g g' handle event c) {k : Nat} (hk : k ≠ handle) :
    g'.state? k = g.state? k := by
  rw [state?, h.stand?_of_ne hk, state?]

theorem state?_binding (h : Happens g g' handle .binding c) : g.state? handle = some .null := by
  rw [state?_of_get? h.get?]
  have hallowed := h.allowed
  cases hs : c.life.state <;> simp [hs, ConnectionState.on] at hallowed ⊢

theorem state?_opening (h : Happens g g' handle .opening c) : g.state? handle = some .halfOpen := by
  rw [state?_of_get? h.get?]
  have hallowed := h.allowed
  cases hs : c.life.state <;> simp [hs, ConnectionState.on] at hallowed ⊢

theorem state?_ending (h : Happens g g' handle event c) (hend : event.target = .null) :
    g.state? handle ≠ some .null := by
  rw [state?_of_get? h.get?]
  have hallowed := h.allowed
  intro hnull
  rw [Option.some.inj hnull] at hallowed
  cases event <;> simp [ConnectionState.on, StateEvent.target] at hallowed hend

theorem isSome_stand? (h : Happens g g' handle event c) (k : Nat) :
    (g'.stand? k).isSome = (g.stand? k).isSome := by
  rw [h.stand?]
  by_cases hk : k = handle
  · rw [if_pos hk, hk, h.stand?_before]
    rfl
  · rw [if_neg hk]

theorem slot?_binding (h : Happens g g' handle .binding c) (k : Nat) :
    g'.slot? k = if k = handle then none else g.slot? k := by
  rw [slot?, h.links, slot?]
  simp only [StateEvent.hookCall, linksAfter]
  by_cases hk : k = handle
  · rw [if_pos hk, if_pos hk]
    cases g.link? k <;> rfl
  · rw [if_neg hk, if_neg hk]

theorem slot?_opening (h : Happens g g' handle .opening c) (k : Nat) : g'.slot? k = g.slot? k :=
  slot?_of_link? (h.links k)

/-- What a hook at the end of a connection does. -/
theorem linksAfter_ending (h : Happens g g' handle event c) (hend : event.target = .null) (k : Nat) :
    g'.link? k = if k = handle then (g.link? k).map fun _ => {}
      else if g.slot? handle = some k then (g.link? k).map Link.cut else g.link? k := by
  rw [h.links]
  cases event with
  | closing | failing => rfl
  | binding | opening => cases hend

theorem slot?_ending (h : Happens g g' handle event c) (hend : event.target = .null) (k : Nat) :
    g'.slot? k = if k = handle ∨ g.slot? handle = some k then none else g.slot? k := by
  rw [slot?, h.linksAfter_ending hend, slot?.eq_def g k]
  by_cases hk : k = handle
  · rw [if_pos hk, if_pos (.inl hk)]
    cases g.link? k <;> rfl
  · rw [if_neg hk]
    by_cases hp : g.slot? handle = some k
    · rw [if_pos hp, if_pos (.inr hp)]
      cases g.link? k <;> rfl
    · rw [if_neg hp, if_neg (by simp [hk, hp])]

theorem inbox_ending (h : Happens g g' handle event c) (hend : event.target = .null) (k : Nat) :
    g'.inbox k = if k = handle then [] else g.inbox k := by
  rw [inbox, h.linksAfter_ending hend, inbox]
  by_cases hk : k = handle
  · rw [if_pos hk, if_pos hk]
    cases g.link? k <;> rfl
  · rw [if_neg hk, if_neg hk]
    by_cases hp : g.slot? handle = some k
    · rw [if_pos hp]
      cases g.link? k <;> rfl
    · rw [if_neg hp]

theorem inbox_binding (h : Happens g g' handle .binding c) (k : Nat) :
    g'.inbox k = if k = handle then [] else g.inbox k := by
  rw [inbox, h.links, inbox]
  simp only [StateEvent.hookCall, linksAfter]
  by_cases hk : k = handle
  · rw [if_pos hk, if_pos hk]
    cases g.link? k <;> rfl
  · rw [if_neg hk, if_neg hk]

theorem inbox_opening (h : Happens g g' handle .opening c) (k : Nat) : g'.inbox k = g.inbox k :=
  inbox_of_link? (h.links k)

end Happens

/-! ## Failing -/

/-- Some connections have failed: they are idle, and nothing waits at them. A link is gone only if one
of its sides is idle now. -/
structure Thinned (g g' : Gateway) : Prop where
  standing : ∀ k, (g'.stand? k = g.stand? k ∧ g'.inbox k = g.inbox k) ∨
    ∃ s, g.stand? k = some s ∧ g'.stand? k = some (s.after .failing) ∧ g'.inbox k = []
  slot : ∀ k, g'.slot? k = g.slot? k ∨
    (g'.slot? k = none ∧ ∃ p, (p = k ∨ g.slot? p = some k) ∧ g'.state? p = some .null)
  places : g'.connections.length = g.connections.length

namespace Thinned

theorem of_sameStanding (h : SameStanding g g') : Thinned g g' where
  standing := fun k => .inl ⟨h.stand k, h.inbox k⟩
  slot := fun k => .inl (h.slot k)
  places := h.places

/-- Who is idle stays idle. -/
theorem state?_null (h : Thinned g g') {k : Nat} (hk : g.state? k = some .null) :
    g'.state? k = some .null := by
  rcases h.standing k with ⟨hstand, -⟩ | ⟨s, -, hstand, -⟩
  · rwa [state?, hstand]
  · rw [state?, hstand]
    rfl

theorem trans (h : Thinned g g') (h' : Thinned g' g'') : Thinned g g'' where
  standing := by
    intro k
    rcases h.standing k with ⟨hstand, hinbox⟩ | ⟨s, hs, hstand, hinbox⟩
    · rw [← hstand, ← hinbox]
      exact h'.standing k
    · refine .inr ⟨s, hs, ?_⟩
      rcases h'.standing k with ⟨hstand', hinbox'⟩ | ⟨s', hs', hstand', hinbox'⟩
      · exact ⟨hstand'.trans hstand, hinbox'.trans hinbox⟩
      · rw [hstand] at hs'
        obtain rfl := Option.some.inj hs'
        exact ⟨hstand', hinbox'⟩
  slot := by
    intro k
    rcases h.slot k with hslot | ⟨hslot, p, hp, hnull⟩
    · rcases h'.slot k with hslot' | ⟨hslot', p, hp, hnull⟩
      · exact .inl (hslot'.trans hslot)
      · refine .inr ⟨hslot', p, hp.imp_right fun hp => ?_, hnull⟩
        rcases h.slot p with hsame | ⟨hnone, -⟩
        · rwa [← hsame]
        · rw [hnone] at hp
          cases hp
    · refine .inr ⟨?_, p, hp, h'.state?_null hnull⟩
      rcases h'.slot k with hslot' | ⟨hslot', -⟩
      · exact hslot'.trans hslot
      · exact hslot'
  places := h'.places.trans h.places

theorem of_ending (h : Happens g g' handle event c) (hend : event.target = .null) :
    Thinned g g' where
  standing := by
    intro k
    rw [h.stand?, h.inbox_ending hend]
    by_cases hk : k = handle
    · rw [if_pos hk, if_pos hk, hk]
      refine .inr ⟨_, h.stand?_before, ?_, rfl⟩
      cases event with
      | closing | failing => rfl
      | binding | opening => cases hend
    · rw [if_neg hk, if_neg hk]
      exact .inl ⟨rfl, rfl⟩
  slot := by
    intro k
    rw [h.slot?_ending hend]
    split
    · rename_i hcut
      exact .inr ⟨rfl, handle, hcut.imp_left Eq.symm, by rw [h.state?_self, hend]⟩
    · exact .inl rfl
  places := h.places

/-- By induction on what lapses. -/
theorem of_lapses {p : Nat → Prop} (h : Lapses p g g') : Thinned g g' := by
  induction h with
  | refl => exact .of_sameStanding (Aside.refl g).sameStanding
  | tail _ h ih =>
    cases h with
    | aside h => exact ih.trans (.of_sameStanding h.sameStanding)
    | fail _ h => exact ih.trans (.of_ending h rfl)

end Thinned

/-! ## Modes -/

namespace SetsMode

variable {mode : Mode}

theorem stand? (h : SetsMode g g' handle mode c) (k : Nat) :
    g'.stand? k = if k = handle then some { c.life.stand with mode } else g.stand? k := by
  rw [Gateway.stand?, h.fronts, Gateway.stand?]
  by_cases hk : k = handle
  · rw [if_pos hk, if_pos hk]
    rfl
  · rw [if_neg hk, if_neg hk]

theorem state? (h : SetsMode g g' handle mode c) (k : Nat) : g'.state? k = g.state? k := by
  rw [Gateway.state?, h.stand?, Gateway.state?]
  by_cases hk : k = handle
  · rw [if_pos hk, hk, stand?_of_get? h.get?]
    rfl
  · rw [if_neg hk]

theorem slot? (h : SetsMode g g' handle mode c) (k : Nat) : g'.slot? k = g.slot? k := by
  rw [Gateway.slot?, h.links, Gateway.slot?]
  simp only [linksAfter]
  split
  · cases g.link? k <;> rfl
  · rfl

theorem inbox (h : SetsMode g g' handle mode c) (k : Nat) :
    g'.inbox k = if k = handle ∧ mode.receives = false then [] else g.inbox k := by
  rw [Gateway.inbox, h.links, Gateway.inbox]
  simp only [linksAfter]
  split
  · cases g.link? k <;> rfl
  · rfl

end SetsMode

/-! ## Joining -/

theorem link?_link {a b : Nat} (hab : a ≠ b) (k : Nat) :
    (g.link a b).link? k = if k = a then (g.link? k).map fun l => { l with peer := some b }
      else if k = b then (g.link? k).map fun l => { l with peer := some a } else g.link? k := by
  rw [link, link?_modifyLink, link?_modifyLink]
  by_cases ha : k = a
  · have hb : k ≠ b := fun h => hab (ha.symm.trans h)
    rw [if_neg hb, if_pos ha, if_pos ha]
  · rw [if_neg ha, if_neg ha]

namespace Joins

variable {g₁ : Gateway} {a b : Nat} {ca cb : Connection}

theorem stand?_link (g : Gateway) (a b k : Nat) : (g.link a b).stand? k = g.stand? k := by
  rw [Gateway.stand?, (behind_link g a b).fronts, Gateway.stand?]

theorem stand?_left (h : Joins g g₁ g' a b ca cb) : g.stand? a = some ca.life.stand := by
  rw [Gateway.stand?, h.front_left]
  rfl

theorem stand?_right (h : Joins g g₁ g' a b ca cb) : g.stand? b = some cb.life.stand := by
  rw [Gateway.stand?, h.front_right]
  rfl

theorem state?_left (h : Joins g g₁ g' a b ca cb) : g.state? a = some .halfOpen := by
  have hstate := h.left.state?_opening
  rwa [state?, stand?_link] at hstate

theorem state?_right (h : Joins g g₁ g' a b ca cb) : g.state? b = some .halfOpen := by
  have hstate := h.right.state?_opening
  rwa [h.left.state?_of_ne (Ne.symm h.distinct), state?, stand?_link] at hstate

theorem stand? (h : Joins g g₁ g' a b ca cb) (k : Nat) :
    g'.stand? k =
      if k = a ∨ k = b then (g.stand? k).map fun s => s.after .opening else g.stand? k := by
  rw [h.right.stand?, h.left.stand?, stand?_link]
  by_cases hb : k = b
  · rw [if_pos hb, if_pos (.inr hb), hb, h.stand?_right]
    rfl
  · rw [if_neg hb]
    by_cases ha : k = a
    · rw [if_pos ha, if_pos (.inl ha), ha, h.stand?_left]
      rfl
    · rw [if_neg ha, if_neg (by simp [ha, hb])]

theorem state? (h : Joins g g₁ g' a b ca cb) (k : Nat) :
    g'.state? k = if k = a ∨ k = b then some .opened else g.state? k := by
  rw [Gateway.state?, h.stand?]
  split
  · rename_i hk
    rcases hk with rfl | rfl
    · rw [h.stand?_left]
      rfl
    · rw [h.stand?_right]
      rfl
  · rfl

theorem slot? (h : Joins g g₁ g' a b ca cb) (k : Nat) :
    g'.slot? k = if k = a then some b else if k = b then some a else g.slot? k := by
  rw [h.right.slot?_opening, h.left.slot?_opening, Gateway.slot?, link?_link h.distinct]
  by_cases ha : k = a
  · rw [if_pos ha, if_pos ha, ha]
    obtain ⟨l, hl⟩ := Option.isSome_iff_exists.1 h.link_left
    rw [hl]
    rfl
  · rw [if_neg ha, if_neg ha]
    by_cases hb : k = b
    · rw [if_pos hb, if_pos hb, hb]
      obtain ⟨l, hl⟩ := Option.isSome_iff_exists.1 h.link_right
      rw [hl]
      rfl
    · rw [if_neg hb, if_neg hb]
      rfl

theorem slot?_cases (h : Joins g g₁ g' a b ca cb) {x y : Nat} (hxy : g'.slot? x = some y) :
    (x = a ∧ y = b) ∨ (x = b ∧ y = a) ∨ (x ≠ a ∧ x ≠ b ∧ g.slot? x = some y) := by
  rw [h.slot?] at hxy
  split at hxy
  · exact .inl ⟨‹_›, (Option.some.inj hxy).symm⟩
  · split at hxy
    · exact .inr (.inl ⟨‹_›, (Option.some.inj hxy).symm⟩)
    · exact .inr (.inr ⟨‹_›, ‹_›, hxy⟩)

theorem inbox (h : Joins g g₁ g' a b ca cb) (k : Nat) : g'.inbox k = g.inbox k := by
  rw [h.right.inbox_opening, h.left.inbox_opening, Gateway.inbox, link?_link h.distinct,
    Gateway.inbox]
  split
  · cases g.link? k <;> rfl
  · split
    · cases g.link? k <;> rfl
    · rfl

theorem places (h : Joins g g₁ g' a b ca cb) :
    g'.connections.length = g.connections.length :=
  (h.right.places.trans h.left.places).trans (behind_link g a b).places

end Joins

/-! ## Frames -/

theorem stand?_modifyLink (u : Link → Link) (k : Nat) :
    (g.modifyLink handle u).stand? k = g.stand? k := by
  rw [stand?, front?_modifyLink, stand?]

theorem slot?_modifyLink {u : Link → Link} (hu : ∀ l, (u l).peer = l.peer) (k : Nat) :
    (g.modifyLink handle u).slot? k = g.slot? k := by
  rw [slot?, link?_modifyLink, slot?]
  split
  · cases g.link? k with
    | none => rfl
    | some l => exact hu l
  · rfl

theorem inbox_modifyLink_of_ne (u : Link → Link) {k : Nat} (hk : k ≠ handle) :
    (g.modifyLink handle u).inbox k = g.inbox k := by
  rw [inbox, link?_modifyLink, if_neg hk, inbox]

theorem inbox_modifyLink_self {l : Link} (hl : g.link? handle = some l) (u : Link → Link) :
    (g.modifyLink handle u).inbox handle = (u l).inbox := by
  rw [inbox, link?_modifyLink, if_pos rfl, hl]
  rfl

/-! ## Coming, waiting and going -/

theorem stand?_of_get?_eq {k : Nat} (h : g'.get? k = g.get? k) : g'.stand? k = g.stand? k := by
  rw [stand?, front?, h, stand?, front?]

theorem link?_of_get?_eq {k : Nat} (h : g'.get? k = g.get? k) : g'.link? k = g.link? k := by
  rw [link?, h, link?]

/-- What coming, waiting and going make of where connections stand: nothing, or there is one more or
one less. -/
inductive StandingRestocked (g g' : Gateway) : Prop
  | same (h : SameStanding g g')
  | arrive (stand : ∀ k, g'.stand? k =
        if k = g.connections.length then some ⟨.null, .inactive, 0⟩ else g.stand? k)
      (slot : ∀ k, g'.slot? k = g.slot? k) (inbox : ∀ k, g'.inbox k = g.inbox k)
      (places : g'.connections.length = g.connections.length + 1)
  | leave (handle : Nat) (stand : ∀ k, g'.stand? k = if k = handle then none else g.stand? k)
      (slot : ∀ k, g'.slot? k = if k = handle then none else g.slot? k)
      (inbox : ∀ k, g'.inbox k = if k = handle then [] else g.inbox k)
      (places : g'.connections.length = g.connections.length)

theorem Restocked.standing {a : Action} (h : Restocked g a g') : StandingRestocked g g' := by
  cases h with
  | same h places =>
    exact .same ⟨fun k => stand?_of_get?_eq (h k), fun k => slot?_of_link? (link?_of_get?_eq (h k)),
      fun k => inbox_of_link? (link?_of_get?_eq (h k)), places⟩
  | arrive c life _ link h places =>
    -- At the new place there was nothing, and nothing is linked or waits there.
    have hnone : g.get? g.connections.length = none := by simp [get?]
    have hnew : g'.get? g.connections.length = some c := by rw [h, if_pos rfl]
    refine .arrive (fun k => ?_) (fun k => ?_) (fun k => ?_) places
    · by_cases hk : k = g.connections.length
      · rw [if_pos hk, hk, stand?_of_get? hnew, life]
        rfl
      · rw [if_neg hk]
        exact stand?_of_get?_eq (by rw [h, if_neg hk])
    · by_cases hk : k = g.connections.length
      · rw [hk, slot?, link?_of_get? hnew, slot?, Gateway.link?, hnone]
        cases hl : c.link? with
        | none => rfl
        | some l =>
          rw [link l hl]
          rfl
      · exact slot?_of_link? (link?_of_get?_eq (by rw [h, if_neg hk]))
    · by_cases hk : k = g.connections.length
      · rw [hk, inbox, link?_of_get? hnew, inbox, Gateway.link?, hnone]
        cases hl : c.link? with
        | none => rfl
        | some l =>
          rw [link l hl]
          rfl
      · exact inbox_of_link? (link?_of_get?_eq (by rw [h, if_neg hk]))
  | @detach handle _ h places =>
    have hstand (k : Nat) : g'.stand? k = g.stand? k := by
      rw [stand?, front?, h, stand?, front?]
      split
      · cases g.get? k <;> rfl
      · rfl
    have hlink (k : Nat) : g'.link? k = g.link? k := by
      rw [Gateway.link?, h, Gateway.link?]
      split
      · cases g.get? k <;> rfl
      · rfl
    exact .same ⟨hstand, fun k => slot?_of_link? (hlink k), fun k => inbox_of_link? (hlink k), places⟩
  | leave handle h places =>
    have hlink (k : Nat) : g'.link? k = if k = handle then none else g.link? k := by
      rw [Gateway.link?, h, Gateway.link?]
      split <;> rfl
    refine .leave handle (fun k => ?_) (fun k => ?_) (fun k => ?_) places
    · rw [stand?, front?, h, stand?, front?]
      split <;> rfl
    · rw [slot?, hlink, slot?]
      split <;> rfl
    · rw [inbox, hlink, inbox]
      split <;> rfl

end Gateway

end MediaGateway
