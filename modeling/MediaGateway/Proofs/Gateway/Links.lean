import MediaGateway.Proofs.Gateway.Standing

/-!
# Links are a matching

Taking a link away clears the slot of the peer, whatever it holds, and binding clears the own slot
only. That this never cuts another pair rests on an invariant of all connections (`Matched`): whoever
has a peer is open, and a peer that lives has it for a peer in turn. A peer that is gone leaves a slot
behind that names an empty place, and no connection ever comes there.
-/

namespace MediaGateway

namespace Gateway

variable {g g' : Gateway} {handle : Nat} {c : Connection} {event : StateEvent}

/-- Links go both ways, and only open connections have one. -/
structure Matched (g : Gateway) : Prop where
  opened : ∀ a b, g.slot? a = some b → g.state? a = some .opened
  distinct : ∀ a b, g.slot? a = some b → a ≠ b
  /-- The places of peers were given out. -/
  placed : ∀ a b, g.slot? a = some b → b < g.connections.length
  back : ∀ a b, g.slot? a = some b → (g.stand? b).isSome → g.slot? b = some a

/-- No link comes or goes, and none of the places that were given out is filled again. -/
structure SlotsStay (g g' : Gateway) : Prop where
  slot : ∀ k, g'.slot? k = g.slot? k
  opened : ∀ k, g.state? k = some .opened → g'.state? k = some .opened
  alive : ∀ k < g.connections.length, (g'.stand? k).isSome → (g.stand? k).isSome
  places : g.connections.length ≤ g'.connections.length

namespace SlotsStay

/-- Where no state changes. -/
theorem of_state (hslot : ∀ k, g'.slot? k = g.slot? k) (hstate : ∀ k, g'.state? k = g.state? k)
    (hplaces : g'.connections.length = g.connections.length) : SlotsStay g g' where
  slot := hslot
  opened := fun k hk => (hstate k).trans hk
  alive := by
    intro k _ hk
    have hsome (g : Gateway) : (g.state? k).isSome = (g.stand? k).isSome := Option.isSome_map
    rwa [← hsome, ← hstate, hsome]
  places := Nat.le_of_eq hplaces.symm

theorem of_sameStanding (h : SameStanding g g') : SlotsStay g g' :=
  .of_state h.slot (fun k => by rw [state?, h.stand, state?]) h.places

theorem modifyLink {u : Link → Link} (hu : ∀ l, (u l).peer = l.peer) :
    SlotsStay g (g.modifyLink handle u) :=
  .of_state (slot?_modifyLink hu) (fun k => by rw [state?, stand?_modifyLink, state?])
    (Behind.modifyLink u).places

theorem setMode {mode : Mode} (h : SetsMode g g' handle mode c) : SlotsStay g g' :=
  .of_state h.slot? h.state? h.places

theorem trans {g'' : Gateway} (h : SlotsStay g g') (h' : SlotsStay g' g'') : SlotsStay g g'' where
  slot := fun k => (h'.slot k).trans (h.slot k)
  opened := fun k hk => h'.opened k (h.opened k hk)
  alive := fun k hk halive => h.alive k hk (h'.alive k (Nat.lt_of_lt_of_le hk h.places) halive)
  places := Nat.le_trans h.places h'.places

/-- Where one connection enters a state that was not open. -/
theorem of_happens (h : Happens g g' handle event c) (hslot : ∀ k, g'.slot? k = g.slot? k)
    (hbefore : g.state? handle ≠ some .opened) : SlotsStay g g' where
  slot := hslot
  opened := by
    intro k hk
    have hne : k ≠ handle := by
      rintro rfl
      exact hbefore hk
    rwa [h.state?_of_ne hne]
  alive := fun k _ hk => by rwa [← h.isSome_stand?]
  places := Nat.le_of_eq h.places.symm

theorem opening (h : Happens g g' handle .opening c) : SlotsStay g g' :=
  .of_happens h h.slot?_opening (by rw [h.state?_opening]; simp)

end SlotsStay

namespace Matched

theorem make (config : GatewayConfig) (environment : Environment) :
    (make config environment).Matched := by
  have hslot (k : Nat) : (Gateway.make config environment).slot? k = none := by
    simp [slot?, link?, get?, Gateway.make]
  constructor
  all_goals
    intro a b hab
    rw [hslot] at hab
    cases hab

/-- Whoever is not open has no peer. -/
theorem slot?_eq_none (h : g.Matched) {k : Nat} (hk : g.state? k ≠ some .opened) :
    g.slot? k = none := by
  cases hs : g.slot? k with
  | none => rfl
  | some p => exact absurd (h.opened k p hs) hk

/-! ## What keeps links a matching -/

/-- Links stay if those that are open stay open, and nobody comes to a place that is named. -/
theorem stay (h : g.Matched) (hs : SlotsStay g g') : g'.Matched where
  opened := fun a b hab => hs.opened a (h.opened a b (hs.slot a ▸ hab))
  distinct := fun a b hab => h.distinct a b (hs.slot a ▸ hab)
  placed := fun a b hab => Nat.lt_of_lt_of_le (h.placed a b (hs.slot a ▸ hab)) hs.places
  back := by
    intro a b hab hb
    rw [hs.slot] at hab ⊢
    exact h.back a b hab (hs.alive b (h.placed a b hab) hb)

/-- Links that are fewer: what is left of a pair is left on both sides. -/
theorem of_fewer (h : g.Matched) (hslot : ∀ a b, g'.slot? a = some b → g.slot? a = some b)
    (hopened : ∀ a b, g'.slot? a = some b → g'.state? a = some .opened)
    (halive : ∀ k, (g'.stand? k).isSome → (g.stand? k).isSome)
    (hboth : ∀ a b, g'.slot? a = some b → (g'.stand? b).isSome → g.slot? b = some a →
      g'.slot? b = some a)
    (hplaces : g'.connections.length = g.connections.length) : g'.Matched where
  opened := hopened
  distinct := fun a b hab => h.distinct a b (hslot a b hab)
  placed := fun a b hab => hplaces ▸ h.placed a b (hslot a b hab)
  back := fun a b hab hb => hboth a b hab hb (h.back a b (hslot a b hab) (halive b hb))

/-- At the end of a connection its own pair is cut, and no other one. -/
theorem ending (h : g.Matched) (hends : Happens g g' handle event c)
    (hend : event.target = .null) : g'.Matched := by
  have hslot (a b : Nat) (hab : g'.slot? a = some b) :
      a ≠ handle ∧ g.slot? handle ≠ some a ∧ g.slot? a = some b := by
    rw [hends.slot?_ending hend] at hab
    split at hab
    · cases hab
    · rename_i hcut
      exact ⟨fun ha => hcut (.inl ha), fun ha => hcut (.inr ha), hab⟩
  refine h.of_fewer (fun a b hab => (hslot a b hab).2.2) (fun a b hab => ?_) (fun k hk => ?_)
    (fun a b hab _ hba => ?_) hends.places
  · obtain ⟨hne, -, hab⟩ := hslot a b hab
    rw [hends.state?_of_ne hne]
    exact h.opened a b hab
  · rwa [← hends.isSome_stand?]
  · obtain ⟨hne, hnot, hab⟩ := hslot a b hab
    have hb : b ≠ handle := fun hb => hnot (hb ▸ hba)
    have hbnot : g.slot? handle ≠ some b := by
      intro hhandle
      have halive : (g.stand? handle).isSome := by rw [hends.stand?_before]; rfl
      have hback := h.back handle b hhandle (stand?_of_slot? hba)
      exact hne (Option.some.inj (hba.symm.trans hback))
    rw [hends.slot?_ending hend, if_neg (by simp [hb, hbnot])]
    exact hba

/-- Binding clears a slot in which nothing is. -/
theorem slot?_binding (h : g.Matched) (hbinds : Happens g g' handle .binding c) (k : Nat) :
    g'.slot? k = g.slot? k := by
  rw [hbinds.slot?_binding]
  by_cases hk : k = handle
  · rw [if_pos hk, hk, h.slot?_eq_none (by rw [hbinds.state?_binding]; simp)]
  · rw [if_neg hk]

theorem binding (h : g.Matched) (hbinds : Happens g g' handle .binding c) : SlotsStay g g' :=
  .of_happens hbinds (h.slot?_binding hbinds) (by rw [hbinds.state?_binding]; simp)

/-- A join links two connections that had no peer, and nobody had one of them for a peer. -/
theorem joining (h : g.Matched) {g₁ : Gateway} {a b : Nat} {ca cb : Connection}
    (hjoins : Joins g g₁ g' a b ca cb) : g'.Matched := by
  have hfree (k p : Nat) (hk : g.state? k = some .halfOpen) : g.slot? p ≠ some k := by
    intro hp
    have hback := h.opened k p (h.back p k hp (isSome_of_state? hk))
    rw [hk] at hback
    cases hback
  have ha : g'.slot? a = some b := by rw [hjoins.slot?, if_pos rfl]
  have hb : g'.slot? b = some a := by
    rw [hjoins.slot?, if_neg (Ne.symm hjoins.distinct), if_pos rfl]
  refine ⟨fun x y hxy => ?_, fun x y hxy => ?_, fun x y hxy => ?_, fun x y hxy hy => ?_⟩
  · rw [hjoins.state?]
    rcases hjoins.slot?_cases hxy with ⟨rfl, -⟩ | ⟨rfl, -⟩ | ⟨hxa, hxb, hxy⟩
    · rw [if_pos (.inl rfl)]
    · rw [if_pos (.inr rfl)]
    · rw [if_neg (by simp [hxa, hxb])]
      exact h.opened x y hxy
  · rcases hjoins.slot?_cases hxy with ⟨rfl, rfl⟩ | ⟨rfl, rfl⟩ | ⟨-, -, hxy⟩
    · exact hjoins.distinct
    · exact Ne.symm hjoins.distinct
    · exact h.distinct x y hxy
  · rw [hjoins.places]
    rcases hjoins.slot?_cases hxy with ⟨-, rfl⟩ | ⟨-, rfl⟩ | ⟨-, -, hxy⟩
    · exact lt_of_stand? hjoins.stand?_right
    · exact lt_of_stand? hjoins.stand?_left
    · exact h.placed x y hxy
  · rcases hjoins.slot?_cases hxy with ⟨rfl, rfl⟩ | ⟨rfl, rfl⟩ | ⟨hxa, hxb, hxy⟩
    · exact hb
    · exact ha
    · have hya : y ≠ a := fun hy => hfree a x hjoins.state?_left (hy ▸ hxy)
      have hyb : y ≠ b := fun hy => hfree b x hjoins.state?_right (hy ▸ hxy)
      have halive : (g.stand? y).isSome := by
        rwa [hjoins.stand?, if_neg (by simp [hya, hyb])] at hy
      rw [hjoins.slot?, if_neg hya, if_neg hyb]
      exact h.back x y hxy halive

/-- When a connection goes, the slot of its peer is left behind. -/
theorem leaving (h : g.Matched) (stand : ∀ k, g'.stand? k = if k = handle then none else g.stand? k)
    (slot : ∀ k, g'.slot? k = if k = handle then none else g.slot? k)
    (places : g'.connections.length = g.connections.length) : g'.Matched := by
  have hslot (a b : Nat) (hab : g'.slot? a = some b) : a ≠ handle ∧ g.slot? a = some b := by
    rw [slot] at hab
    split at hab
    · cases hab
    · exact ⟨‹_›, hab⟩
  have hstand (k : Nat) (hk : (g'.stand? k).isSome) : k ≠ handle ∧ (g.stand? k).isSome := by
    rw [stand] at hk
    split at hk
    · cases hk
    · exact ⟨‹_›, hk⟩
  refine h.of_fewer (fun a b hab => (hslot a b hab).2) (fun a b hab => ?_)
    (fun k hk => (hstand k hk).2) (fun a b hab hb hba => ?_) places
  · obtain ⟨hne, hab⟩ := hslot a b hab
    rw [state?, stand, if_neg hne]
    exact h.opened a b hab
  · rw [slot, if_neg (hstand b hb).1]
    exact hba

/-- By induction on what lapses. -/
theorem lapses (h : g.Matched) {p : Nat → Prop} (hl : Lapses p g g') : g'.Matched := by
  induction hl with
  | refl => exact h
  | tail _ hl ih =>
    cases hl with
    | aside haside => exact ih.stay (.of_sameStanding haside.sameStanding)
    | fail _ hfails => exact ih.ending hfails rfl

end Matched

/-! ## What actions do to links -/

/-- What an action other than a join does to links. -/
inductive Relinked (g g' : Gateway) : Prop
  | stay (h : SlotsStay g g')
  | lapses {p : Nat → Prop} (h : Lapses p g g')
  | close {k c} (h : Happens g g' k .closing c)
  | leave (k : Nat) (stand : ∀ x, g'.stand? x = if x = k then none else g.stand? x)
      (slot : ∀ x, g'.slot? x = if x = k then none else g.slot? x)
      (places : g'.connections.length = g.connections.length)

theorem StandingRestocked.relinked (h : StandingRestocked g g') : Relinked g g' := by
  cases h with
  | same h => exact .stay (.of_sameStanding h)
  | arrive stand slot _ places =>
    refine .stay ⟨slot, fun k hk => ?_, fun k hlt hk => ?_, by omega⟩
    · obtain ⟨s, hs, -⟩ := exists_stand? hk
      rwa [state?, stand, if_neg (Nat.ne_of_lt (lt_of_stand? hs))]
    · rwa [stand, if_neg (Nat.ne_of_lt hlt)] at hk
  | leave handle stand slot _ places => exact .leave handle stand slot places

namespace Matched

theorem relinked (h : g.Matched) {a : Action} (he : Effect g a g') :
    Relinked g g' ∨ ∃ x y g₁ cx cy, a = .join x y ∧ Joins g g₁ g' x y cx cy := by
  cases he with
  | restock hr _ => exact .inl hr.standing.relinked
  | setting hk => exact .inl (.stay (.of_sameStanding (.of_setting hk)))
  | lapses hl => exact .inl (.lapses hl)
  | bind hbinds => exact .inl (.stay (h.binding hbinds))
  | «open» _ haside hopens =>
    exact .inl (.stay ((SlotsStay.of_sameStanding haside.sameStanding).trans (.opening hopens)))
  | close hcloses => exact .inl (.close hcloses)
  | setMode hsets => exact .inl (.stay (.setMode hsets))
  | join hjoins => exact .inr ⟨_, _, _, _, _, rfl, hjoins⟩
  | @send k frame c peer p _ _ _ _ =>
    have hdeliver : SlotsStay g (g.modifyLink peer fun l => l.deliver frame) :=
      .modifyLink (by intro l; rfl)
    exact .inl (.stay (hdeliver.trans (.of_sameStanding (Aside.refresh _ peer).sameStanding)))
  | receive k => exact .inl (.stay (.modifyLink (by intro l; rfl)))
  | clearLog => exact .inl (.stay (.of_sameStanding (.clearLog g)))

theorem of_relinked (h : g.Matched) (hr : Relinked g g') : g'.Matched := by
  cases hr with
  | stay hs => exact h.stay hs
  | lapses hl => exact h.lapses hl
  | close hcloses => exact h.ending hcloses rfl
  | leave k stand slot places => exact h.leaving stand slot places

/-- What an action does keeps links a matching. -/
theorem effect (h : g.Matched) {a : Action} (he : Effect g a g') : g'.Matched := by
  rcases h.relinked he with hr | ⟨x, y, g₁, cx, cy, -, hjoins⟩
  · exact h.of_relinked hr
  · exact h.joining hjoins

/-- Links are a matching in every proper run. -/
theorem run (config : GatewayConfig) (environment : Environment) {actions : List Action}
    (hp : (Gateway.make config environment).Throughout Proper actions) :
    ((Gateway.make config environment).run actions).Steady ∧
      ((Gateway.make config environment).run actions).Matched :=
  (Steady.make config environment).induction (fun _ _ hs hp h => h.effect (hs.effect hp))
    (.make config environment) hp

end Matched

/-! ## Peers -/

theorem peerOf?_congr {k : Nat} (hslot : g'.slot? k = g.slot? k)
    (halive : ∀ p, (g'.stand? p).isSome = (g.stand? p).isSome) : g'.peerOf? k = g.peerOf? k :=
  Option.ext fun p => by rw [peerOf?_eq_some, peerOf?_eq_some, hslot, halive]

namespace Matched

theorem peerOf?_back (h : g.Matched) {a b : Nat} (hab : g.peerOf? a = some b) :
    g.peerOf? b = some a := by
  obtain ⟨hslot, hb⟩ := peerOf?_eq_some.1 hab
  exact peerOf?_eq_some.2 ⟨h.back a b hslot hb, stand?_of_slot? hslot⟩

/-- A pair: each has the other one for its peer, and both are open. -/
theorem pair (h : g.Matched) {a b : Nat} (hab : g.peerOf? a = some b) :
    g.peerOf? b = some a ∧ a ≠ b ∧ g.state? a = some .opened ∧ g.state? b = some .opened := by
  have hba := h.peerOf?_back hab
  have hslot := (peerOf?_eq_some.1 hab).1
  exact ⟨hba, h.distinct a b hslot, h.opened a b hslot, h.opened b a (peerOf?_eq_some.1 hba).1⟩

/-- Where links only go, and go with one of their sides, pairs are left as long as both sides are
open. -/
theorem peerOf?_of_fewer (h : g.Matched) (h' : g'.Matched)
    (hslot : ∀ a b, g'.slot? a = some b → g.slot? a = some b)
    (halive : ∀ k < g.connections.length, (g'.stand? k).isSome → (g.stand? k).isSome)
    (hkept : ∀ a b, g.slot? a = some b → g.slot? b = some a → g'.state? a = some .opened →
      g'.state? b = some .opened → g'.slot? a = some b) (x y : Nat) :
    g'.peerOf? x = some y ↔
      g.peerOf? x = some y ∧ g'.state? x = some .opened ∧ g'.state? y = some .opened := by
  constructor
  · intro hxy
    obtain ⟨-, -, hx, hy⟩ := h'.pair hxy
    obtain ⟨hslot', hy'⟩ := peerOf?_eq_some.1 hxy
    have hbefore := hslot x y hslot'
    exact ⟨peerOf?_eq_some.2 ⟨hbefore, halive y (h.placed x y hbefore) hy'⟩, hx, hy⟩
  · rintro ⟨hxy, hx, hy⟩
    have hyx := (peerOf?_eq_some.1 (h.peerOf?_back hxy)).1
    exact peerOf?_eq_some.2
      ⟨hkept x y (peerOf?_eq_some.1 hxy).1 hyx hx hy, isSome_of_state? hy⟩

theorem peerOf?_thinned (h : g.Matched) (h' : g'.Matched) (ht : Thinned g g') (x y : Nat) :
    g'.peerOf? x = some y ↔
      g.peerOf? x = some y ∧ g'.state? x = some .opened ∧ g'.state? y = some .opened := by
  refine h.peerOf?_of_fewer h' (fun a b hab => ?_) (fun k _ hk => ?_) (fun a b hab hba ha hb => ?_) x y
  · rcases ht.slot a with hsame | ⟨hnone, -⟩
    · rwa [← hsame]
    · rw [hnone] at hab
      cases hab
  · rcases ht.standing k with ⟨hsame, -⟩ | ⟨s, hs, -⟩
    · rwa [← hsame]
    · rw [hs]
      rfl
  · rcases ht.slot a with hsame | ⟨-, p, hp, hnull⟩
    · rwa [hsame]
    · -- The side that is idle now would be one of the two.
      rcases hp with rfl | hp
      · rw [ha] at hnull
        cases hnull
      · have hback := h.back p a hp (stand?_of_slot? hab)
        obtain rfl : b = p := Option.some.inj (hab.symm.trans hback)
        rw [hb] at hnull
        cases hnull

theorem peerOf?_relinked (h : g.Matched) (hr : Relinked g g') (x y : Nat) :
    g'.peerOf? x = some y ↔
      g.peerOf? x = some y ∧ g'.state? x = some .opened ∧ g'.state? y = some .opened := by
  have h' := h.of_relinked hr
  cases hr with
  | stay hs =>
    exact h.peerOf?_of_fewer h' (fun a b hab => hs.slot a ▸ hab) hs.alive
      (fun a b hab _ _ _ => (hs.slot a).trans hab) x y
  | lapses hl => exact h.peerOf?_thinned h' (.of_lapses hl) x y
  | close hcloses => exact h.peerOf?_thinned h' (.of_ending hcloses rfl) x y
  | leave k stand slot _ =>
    refine h.peerOf?_of_fewer h' (fun a b hab => ?_) (fun a _ ha => ?_) (fun a b hab _ ha _ => ?_) x y
    · rw [slot] at hab
      split at hab
      · cases hab
      · exact hab
    · rw [stand] at ha
      split at ha
      · cases ha
      · exact ha
    · have hne : a ≠ k := by
        rintro rfl
        rw [state?, stand, if_pos rfl] at ha
        cases ha
      rw [slot, if_neg hne]
      exact hab

end Matched

theorem peerOf?_joining {g₁ : Gateway} {a b : Nat} {ca cb : Connection}
    (h : Joins g g₁ g' a b ca cb) (x : Nat) :
    g'.peerOf? x = if x = a then some b else if x = b then some a else g.peerOf? x := by
  have halive (k : Nat) : (g'.stand? k).isSome = (g.stand? k).isSome := by
    rw [h.stand?]
    split
    · exact Option.isSome_map
    · rfl
  have hleft : (g.stand? a).isSome := by rw [h.stand?_left]; rfl
  have hright : (g.stand? b).isSome := by rw [h.stand?_right]; rfl
  split
  · rename_i hx
    exact peerOf?_eq_some.2 ⟨by rw [h.slot?, if_pos hx], (halive b).trans hright⟩
  · rename_i hxa
    split
    · rename_i hxb
      exact peerOf?_eq_some.2 ⟨by rw [h.slot?, if_neg hxa, if_pos hxb], (halive a).trans hleft⟩
    · rename_i hxb
      exact peerOf?_congr (by rw [h.slot?, if_neg hxa, if_neg hxb]) halive

/-! ## Cutting one pair -/

/-- A connection has lost its peer. Of the others this changes nothing but that the peer has lost it
in turn. -/
structure Severed (g g' : Gateway) (handle : Nat) : Prop where
  peers : ∀ k, g'.peerOf? k =
    if k = handle ∨ g.peerOf? handle = some k then none else g.peerOf? k
  lives : ∀ k ≠ handle, g'.life? k = g.life? k
  inboxes : ∀ k ≠ handle, g'.inbox k = g.inbox k

theorem Happens.severed (hends : Happens g g' handle event c)
    (hend : event.target = .null) : Severed g g' handle where
  peers := by
    intro k
    by_cases hcut : k = handle ∨ g.slot? handle = some k
    · have hgone : g'.peerOf? k = none := by
        cases hp : g'.peerOf? k with
        | none => rfl
        | some p =>
          have hslot := (peerOf?_eq_some.1 hp).1
          rw [hends.slot?_ending hend, if_pos hcut] at hslot
          cases hslot
      rw [hgone]
      split
      · rfl
      · -- The peer is gone itself.
        rename_i hnot
        cases hp : g.peerOf? k with
        | none => rfl
        | some p =>
          have halive := stand?_of_slot? (peerOf?_eq_some.1 hp).1
          exact absurd (hcut.imp_right fun hs => peerOf?_eq_some.2 ⟨hs, halive⟩) hnot
    · have hnot : ¬(k = handle ∨ g.peerOf? handle = some k) :=
        fun hor => hcut (hor.imp_right fun hp => (peerOf?_eq_some.1 hp).1)
      rw [if_neg hnot]
      exact peerOf?_congr (by rw [hends.slot?_ending hend, if_neg hcut]) hends.isSome_stand?
  lives := by
    intro k hk
    rw [life?, hends.fronts, if_neg hk, life?]
  inboxes := by
    intro k hk
    rw [hends.inbox_ending hend, if_neg hk]

/-- Where there was no peer there is nothing to lose. -/
theorem Matched.severed (h : g.Matched) (hk : g.state? handle ≠ some .opened) :
    Severed g g handle where
  peers := by
    intro k
    have hnone : g.peerOf? handle = none := by
      cases hp : g.peerOf? handle with
      | none => rfl
      | some p => exact absurd (h.pair hp).2.2.1 hk
    rw [hnone]
    by_cases hkh : k = handle
    · rw [if_pos (.inl hkh), hkh, hnone]
    · rw [if_neg (by simp [hkh])]
  lives := fun _ _ => rfl
  inboxes := fun _ _ => rfl

/-- Closing and failing cut the pair of a connection, if it has a peer. -/
theorem Matched.severed_operate (h : g.Matched) (hq : g.Quiet) (handle : Nat) (event : StateEvent)
    (hend : event.target = .null) : Severed g (g.operate handle event).2 handle := by
  cases hc : g.get? handle with
  | none =>
    have hsame : (g.operate handle event).2 = g := by
      cases event with
      | closing => simp only [operate, closeConnection, startClose, hc, conclude]
      | failing => simp only [operate, failConnection, startFail, hc, conclude]
      | binding | opening => cases hend
    rw [hsame]
    exact h.severed (by simp [state?, stand?, front?, hc])
  | some c =>
    by_cases hs : c.life.state = .null
    · have hignored : c.life.state.on event = .ignore := by
        rw [hs]
        cases event with
        | closing | failing => rfl
        | binding | opening => cases hend
      have hfollows := follows_operate hc event
      simp only [Follows, hignored] at hfollows
      rw [hfollows]
      exact h.severed (by simp [state?_of_get? hc, hs])
    · have hnext : c.life.state.on event = .next event.target := by
        cases hl : c.life.state <;> cases event <;>
          simp_all [ConnectionState.on, StateEvent.target]
      have hdone : event.refusal? c.front = none := by
        cases event with
        | closing | failing => rfl
        | binding | opening => cases hend
      exact (operate_of_next hc (hq.of_get? hc) hnext hdone).2.severed hend

/-- The last heartbeat cuts a pair as a failure does. -/
theorem Matched.severed_heartbeat (h : g.Matched) (hs : g.Steady) {epoch : Nat}
    (hc : g.get? handle = some c) (hlast : (c.life.beat epoch).1 = .expired) :
    Severed g (g.heartbeat handle epoch).2 handle := by
  have hcurrent : c.life.armed = true ∧ c.life.epoch = epoch := by
    by_contra hstale
    rw [Lifecycle.beat_of_stale hstale] at hlast
    cases hlast
  obtain ⟨ha, rfl⟩ := hcurrent
  have httl : c.life.ttl ≤ 1 := by
    by_contra hmore
    rw [Lifecycle.beat_of_current ha, if_pos (by omega)] at hlast
    cases hlast
  have hsound := hs.timed.sound handle _ (life?_of_get? hc)
  rw [heartbeat_of_expired hc ha httl (hsound.isBound (hsound.armed.1 ha))]
  exact h.severed_operate hs.quiet handle .failing rfl

/-! ## Whole runs -/

/-- A join of links that succeeds makes a pair of the two. -/
theorem peerOf?_join (hq : g.Quiet) {a b : Nat} (hj : g.joinsLinks (.join a b) = true)
    (ha : (g.get? a).isSome = true) (hb : (g.get? b).isSome = true) (hok : (g.join a b).1 = .ok ())
    (k : Nat) :
    (g.join a b).2.peerOf? k = if k = a then some b else if k = b then some a else g.peerOf? k := by
  rcases join_cases hq hj with ⟨-, hnothing⟩ | ⟨-, g₁, ca, cb, hjoins⟩
  · exact absurd ⟨ha, hb⟩ (hnothing hok)
  · exact peerOf?_joining hjoins k

/-- Links between connections are a matching, whatever was done before, as long as listeners do not
call back. A pair has two sides, and both are open. A join that fails changes nothing, and one that
succeeds makes a pair of the two that it is about. Closing a connection, failing it and its last
heartbeat cut its own pair and leave everything else about the other connections alone. Apart from
joins, an action leaves those pairs of which both sides are open afterwards, and no others. -/
theorem links_are_matching (config : GatewayConfig) (environment : Environment)
    {actions : List Action} (hp : (make config environment).Throughout Proper actions) :
    let g := (make config environment).run actions
    (∀ a b, g.peerOf? a = some b →
      g.peerOf? b = some a ∧ a ≠ b ∧ g.state? a = some .opened ∧ g.state? b = some .opened) ∧
    (∀ a b, g.joinsLinks (.join a b) = true →
      (∀ e, (g.join a b).1 = .error e → (g.join a b).2 = g) ∧
      ((g.get? a).isSome = true → (g.get? b).isSome = true → (g.join a b).1 = .ok () → ∀ k,
        (g.join a b).2.peerOf? k =
          if k = a then some b else if k = b then some a else g.peerOf? k)) ∧
    (∀ handle, Severed g (g.closeConnection handle).2 handle ∧
      Severed g (g.failConnection handle) handle ∧
      ∀ c epoch, g.get? handle = some c → (c.life.beat epoch).1 = .expired →
        Severed g (g.heartbeat handle epoch).2 handle) ∧
    ∀ a, g.Proper a → (∀ x y, a ≠ .join x y) → ∀ x y, (g.perform a).peerOf? x = some y ↔
      g.peerOf? x = some y ∧ (g.perform a).state? x = some .opened ∧
        (g.perform a).state? y = some .opened := by
  intro g
  obtain ⟨hs, h⟩ := Matched.run config environment hp
  refine ⟨fun a b hab => h.pair hab, fun a b hj => ⟨fun e he => join_of_error hs.quiet hj he, ?_⟩,
    fun handle => ⟨h.severed_operate hs.quiet handle .closing rfl,
      h.severed_operate hs.quiet handle .failing rfl, ?_⟩,
    fun a ha hnot => ?_⟩
  · exact fun ha hb hok => peerOf?_join hs.quiet hj ha hb hok
  · exact fun c epoch hc hlast => h.severed_heartbeat hs hc hlast
  · rcases h.relinked (hs.effect ha) with hr | ⟨x, y, -, -, -, hjoin, -⟩
    · exact h.peerOf?_relinked hr
    · exact absurd hjoin (hnot x y)

/-- Of three links two are joined. The third one cannot be joined with one of them, which changes
nothing, and when one of the pair is closed, the other one stays open without a peer. -/
theorem links_are_matching_threeLinks :
    let actions : List Action := [.create .internal, .create .internal, .create .internal,
      .bind 0, .bind 1, .bind 2, .join 0 1]
    let g := (make {} .isolated).run actions
    g.peerOf? 0 = some 1 ∧ g.peerOf? 1 = some 0 ∧ g.state? 2 = some .halfOpen ∧
      (∃ e, (g.join 2 1).1 = .error e) ∧ (g.join 2 1).2 = g ∧
      (g.closeConnection 0).2.peerOf? 1 = none ∧ (g.closeConnection 0).2.life? 1 = g.life? 1 := by
  intro actions g
  have hp : (make {} .isolated).Throughout Proper actions := by decide +kernel
  have hlinks : g.joinsLinks (.join 2 1) = true := by decide +kernel
  have hpeer : g.peerOf? 0 = some 1 := by decide +kernel
  obtain ⟨hpairs, hjoin, hcut, -⟩ := links_are_matching {} .isolated hp
  have hfails : ∃ e, (g.join 2 1).1 = .error e := by
    have hresult : (g.join 2 1).1.toOption = none := by decide +kernel
    cases hj : (g.join 2 1).1 with
    | error e => exact ⟨e, rfl⟩
    | ok u => simp [hj, Except.toOption] at hresult
  obtain ⟨e, he⟩ := hfails
  have hsevered := (hcut 0).1
  refine ⟨hpeer, (hpairs 0 1 hpeer).1, by decide +kernel, ⟨e, he⟩, (hjoin 2 1 hlinks).1 e he, ?_, ?_⟩
  · rw [hsevered.peers, if_pos (.inr hpeer)]
  · exact hsevered.lives 1 (by decide)

end Gateway

end MediaGateway
