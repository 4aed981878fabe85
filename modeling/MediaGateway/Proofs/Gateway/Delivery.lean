import MediaGateway.Proofs.Gateway.Links

/-!
# Delivery over links

What an inbox holds depends on both sides of a link, on how long the link lasts, on how full the
inbox is and on three occasions to empty it. All of this comes down to the `Course` of one connection,
in which nothing is sent or received, and to what one action delivers, reads or drops (`Posted`).
-/

namespace MediaGateway

namespace Gateway

variable {g g' : Gateway} {handle k : Nat} {c : Connection} {event : StateEvent}

/-! ## The course of one connection -/

/-- How often the connection at a place was bound. -/
def binding? (g : Gateway) (handle : Nat) : Option Nat :=
  (g.stand? handle).map Stand.generation

/-- Whether a connection receives: it is open, in a mode for that. -/
def receives (g : Gateway) (handle : Nat) : Bool :=
  (g.stand? handle).any fun s => s.state = .opened && s.mode.receives

theorem receives_eq_true : g.receives k = true ↔
    ∃ s, g.stand? k = some s ∧ s.state = .opened ∧ s.mode.receives = true := by
  simp [receives, Option.any_eq_true]

theorem receives_congr (h : g'.stand? k = g.stand? k) : g'.receives k = g.receives k := by
  rw [receives, h, receives]

theorem binding?_of_stand? {s : Stand} (hs : g.stand? k = some s) :
    g.binding? k = some s.generation := by
  rw [binding?, hs]
  rfl

/-- At the next place to be given out there is nothing yet. -/
theorem stand?_next (hk : k = g.connections.length) : g.stand? k = none := by
  cases hs : g.stand? k with
  | none => rfl
  | some s => exact absurd (lt_of_stand? hs) (by omega)

theorem inbox_of_stand?_none (h : g.stand? k = none) : g.inbox k = [] := by
  have hget : g.get? k = none := by
    rw [← Option.not_isSome_iff_eq_none, ← isSome_stand?, h]
    exact Bool.false_ne_true
  simp [inbox, link?, hget]

/-- What an action other than sending and receiving does to a connection: where it stands and what
waits for it. -/
inductive Course (g g' : Gateway) (k : Nat) : Prop
  | same (stand : g'.stand? k = g.stand? k) (inbox : g'.inbox k = g.inbox k)
  | come (before : k = g.connections.length) (inbox : g'.inbox k = g.inbox k)
      (bound : g'.binding? k = some 0)
  | go (after : g'.stand? k = none)
  | bound {s} (before : g.stand? k = some s) (idle : s.state = .null)
      (stand : g'.stand? k = some (s.after .binding)) (inbox : g'.inbox k = [])
  | opened {s} (before : g.stand? k = some s) (waiting : s.state = .halfOpen)
      (stand : g'.stand? k = some (s.after .opening)) (inbox : g'.inbox k = g.inbox k)
  | ended {s} (before : g.stand? k = some s) (stand : g'.stand? k = some (s.after .failing))
      (inbox : g'.inbox k = [])
  | mode {s mode} (before : g.stand? k = some s) (stand : g'.stand? k = some { s with mode })
      (inbox : g'.inbox k = if mode.receives then g.inbox k else [])

namespace Course

theorem of_thinned (h : Thinned g g') (k : Nat) : Course g g' k := by
  rcases h.standing k with ⟨hstand, hinbox⟩ | ⟨s, hs, hstand, hinbox⟩
  · exact .same hstand hinbox
  · exact .ended hs hstand hinbox

theorem of_sameStanding (h : SameStanding g g') (k : Nat) : Course g g' k :=
  .same (h.stand k) (h.inbox k)

theorem after_aside {g₁ : Gateway} (haside : Aside g g₁) (h : Course g₁ g' k) : Course g g' k := by
  have hsame := haside.sameStanding
  have hstand := hsame.stand k
  have hinbox := hsame.inbox k
  cases h with
  | same stand inbox => exact .same (stand.trans hstand) (inbox.trans hinbox)
  | come before inbox bound => exact .come (before.trans hsame.places) (inbox.trans hinbox) bound
  | go after => exact .go after
  | bound before idle stand inbox => exact .bound (hstand ▸ before) idle stand inbox
  | opened before waiting stand inbox =>
    exact .opened (hstand ▸ before) waiting stand (inbox.trans hinbox)
  | ended before stand inbox => exact .ended (hstand ▸ before) stand inbox
  | mode before stand inbox => exact .mode (hstand ▸ before) stand (hinbox ▸ inbox)

theorem of_restocked (h : StandingRestocked g g') (k : Nat) : Course g g' k := by
  cases h with
  | same h => exact .of_sameStanding h k
  | arrive stand _ inbox _ =>
    by_cases hk : k = g.connections.length
    · refine .come hk (inbox k) ?_
      rw [binding?, stand, if_pos hk]
      rfl
    · exact .same (by rw [stand, if_neg hk]) (inbox k)
  | leave handle stand _ inbox _ =>
    by_cases hk : k = handle
    · exact .go (by rw [stand, if_pos hk])
    · exact .same (by rw [stand, if_neg hk]) (by rw [inbox, if_neg hk])

theorem of_binding (h : Happens g g' handle .binding c) (k : Nat) : Course g g' k := by
  by_cases hk : k = handle
  · subst hk
    have hidle := h.state?_binding
    rw [state?, h.stand?_before] at hidle
    exact .bound h.stand?_before (Option.some.inj hidle) h.stand?_self
      (by rw [h.inbox_binding, if_pos rfl])
  · exact .same (h.stand?_of_ne hk) (by rw [h.inbox_binding, if_neg hk])

theorem of_opening (h : Happens g g' handle .opening c) (k : Nat) : Course g g' k := by
  by_cases hk : k = handle
  · subst hk
    have hwaiting := h.state?_opening
    rw [state?, h.stand?_before] at hwaiting
    exact .opened h.stand?_before (Option.some.inj hwaiting) h.stand?_self (h.inbox_opening _)
  · exact .same (h.stand?_of_ne hk) (h.inbox_opening k)

theorem of_joins {g₁ : Gateway} {a b : Nat} {ca cb : Connection} (h : Joins g g₁ g' a b ca cb)
    (k : Nat) : Course g g' k := by
  by_cases hk : k = a ∨ k = b
  · have hstate : g.state? k = some .halfOpen := by
      rcases hk with rfl | rfl
      · exact h.state?_left
      · exact h.state?_right
    obtain ⟨s, hs, hwaiting⟩ := exists_stand? hstate
    refine .opened hs hwaiting ?_ (h.inbox k)
    rw [h.stand?, if_pos hk, hs]
    rfl
  · exact .same (by rw [h.stand?, if_neg hk]) (h.inbox k)

theorem of_setsMode {mode : Mode} (h : SetsMode g g' handle mode c) (k : Nat) : Course g g' k := by
  by_cases hk : k = handle
  · subst hk
    refine .mode (stand?_of_get? h.get?) (by rw [h.stand?, if_pos rfl]) ?_
    rw [h.inbox]
    cases mode.receives <;> simp
  · exact .same (by rw [h.stand?, if_neg hk]) (by rw [h.inbox, if_neg (by simp [hk])])

/-- An effect of an action that neither sends nor receives. -/
theorem of_effect {a : Action} (he : Effect g a g') (hsend : ∀ k f, a ≠ .send k f)
    (hreceive : ∀ k, a ≠ .receive k) (k : Nat) : Course g g' k := by
  cases he with
  | restock h _ => exact .of_restocked h.standing k
  | setting hk => exact .of_sameStanding (.of_setting hk) k
  | lapses h => exact .of_thinned (.of_lapses h) k
  | bind h => exact .of_binding h k
  | «open» _ haside h => exact .after_aside haside (.of_opening h k)
  | close h => exact .of_thinned (.of_ending h rfl) k
  | setMode h => exact .of_setsMode h k
  | join h => exact .of_joins h k
  | send _ _ _ _ => exact absurd rfl (hsend _ _)
  | receive k => exact absurd rfl (hreceive k)
  | clearLog => exact .of_sameStanding (.clearLog g) k

variable (h : Course g g' k)
include h

/-- Nobody comes to a place that was given out. -/
theorem alive_before (hk : k < g.connections.length) (halive : (g'.stand? k).isSome) :
    (g.stand? k).isSome := by
  cases h with
  | same stand _ => rwa [← stand]
  | come before _ _ => omega
  | go after =>
    rw [after] at halive
    cases halive
  | bound before _ _ _ | opened before _ _ _ | ended before _ _ | mode before _ _ =>
    rw [before]
    rfl

/-- A connection that was open, and is not gone, was not bound meanwhile. -/
theorem binding?_of_opened (hopen : g.state? k = some .opened) (halive : (g'.stand? k).isSome) :
    g'.binding? k = g.binding? k := by
  obtain ⟨s, hs, hstate⟩ := exists_stand? hopen
  cases h with
  | same stand _ => rw [binding?, stand, binding?]
  | come before _ _ => exact absurd (lt_of_stand? hs) (by omega)
  | go after =>
    rw [after] at halive
    cases halive
  | bound before idle _ _ =>
    obtain rfl := Option.some.inj (hs.symm.trans before)
    rw [hstate] at idle
    cases idle
  | mode before stand _ => rw [binding?_of_stand? stand, binding?_of_stand? before]
  | opened before _ stand _ | ended before stand _ =>
    rw [binding?_of_stand? stand, binding?_of_stand? before]
    rfl

/-- Only binding leads to the state in which a connection waits. -/
theorem halfOpen_before (hstate : g'.state? k = some .halfOpen)
    (hsame : g'.binding? k = g.binding? k) : g.state? k = some .halfOpen := by
  cases h with
  | same stand _ => rwa [state?, stand] at hstate
  | come before _ bound =>
    rw [bound, binding?, stand?_next before] at hsame
    cases hsame
  | go after =>
    rw [state?, after] at hstate
    cases hstate
  | bound before _ stand _ =>
    rw [binding?_of_stand? stand, binding?_of_stand? before, Option.some.injEq] at hsame
    exact absurd hsame (Nat.succ_ne_self _)
  | opened _ _ stand _ | ended _ stand _ =>
    rw [state?, stand] at hstate
    cases hstate
  | mode before stand _ =>
    rw [state?, stand] at hstate
    rw [state?, before]
    exact hstate

/-- What waits for a connection is gone when it is bound again. -/
theorem inbox_of_rebound (hne : g'.binding? k ≠ g.binding? k) : g'.inbox k = [] := by
  cases h with
  | same stand _ => exact absurd (by rw [binding?, stand, binding?]) hne
  | come before inbox _ => rw [inbox, inbox_of_stand?_none (stand?_next before)]
  | go after => exact inbox_of_stand?_none after
  | bound _ _ _ inbox => exact inbox
  | ended _ _ inbox => exact inbox
  | opened before _ stand _ | mode before stand _ =>
    rw [binding?_of_stand? stand, binding?_of_stand? before] at hne
    exact absurd rfl hne

end Course

/-! ## What is delivered and what is read -/

/-- The frame that an action delivers to a connection, with its sender: sending it says so, and the
connection is the peer of the sender. -/
def delivery? (g : Gateway) (handle : Nat) : Action → Option (Nat × Frame)
  | .send k frame =>
    if (g.send k frame).1.toOption = some true ∧ g.peerOf? k = some handle then some (k, frame)
    else none
  | _ => none

/-- The frame that an action reads from the inbox of a connection. -/
def reading? (g : Gateway) (handle : Nat) : Action → Option Frame
  | .receive k => if k = handle then (g.receive k).1 else none
  | _ => none

theorem delivery?_of_ne {a : Action} (hsend : ∀ k f, a ≠ .send k f) : g.delivery? handle a = none := by
  cases a with
  | send k f => exact absurd rfl (hsend k f)
  | _ => rfl

theorem reading?_of_ne {a : Action} (hreceive : ∀ k, a ≠ .receive k) :
    g.reading? handle a = none := by
  cases a with
  | receive k => exact absurd rfl (hreceive k)
  | _ => rfl

/-- What an action does to the inbox of a connection: a frame comes, for which the oldest of a full
inbox gives way, or the oldest frame is read, or the inbox is emptied as the connection does not
receive any longer. -/
inductive Posted (g : Gateway) (handle : Nat) (a : Action) (g' : Gateway) : Prop
  | same (delivered : g.delivery? handle a = none) (read : g.reading? handle a = none)
      (inbox : g'.inbox handle = g.inbox handle)
  | delivered {sender frame} (delivered : g.delivery? handle a = some (sender, frame))
      (read : g.reading? handle a = none) (inbox : g'.inbox handle =
        (if Link.capacity ≤ (g.inbox handle).length then (g.inbox handle).drop 1
          else g.inbox handle) ++ [frame])
  | read {frame} (delivered : g.delivery? handle a = none) (read : g.reading? handle a = some frame)
      (inbox : g.inbox handle = frame :: g'.inbox handle)
  | emptied (delivered : g.delivery? handle a = none) (read : g.reading? handle a = none)
      (stops : g'.receives handle = false) (inbox : g'.inbox handle = [])

/-! ## One action -/

/-- Sending delivers to the peer, or does nothing. -/
theorem send_delivers (hm : g.Matched) (k : Nat) (frame : Frame) :
    (g.perform (.send k frame) = g ∧ ∀ x, g.delivery? x (.send k frame) = none) ∨
      ∃ peer, g.peerOf? peer = some k ∧ g.receives peer = true ∧
        (∀ x, (g.perform (.send k frame)).stand? x = g.stand? x) ∧
        (∀ x, g.delivery? x (.send k frame) = if x = peer then some (k, frame) else none) ∧
        ∀ x, (g.perform (.send k frame)).inbox x = if x = peer then
          (if Link.capacity ≤ (g.inbox x).length then (g.inbox x).drop 1 else g.inbox x) ++ [frame]
          else g.inbox x := by
  rcases send_cases g k frame with ⟨hnot, hsame⟩ | ⟨c, peer, p, hc, hp, -, hreceives, hsend⟩
  · refine .inl ⟨hsame, fun x => ?_⟩
    have hno : (g.send k frame).1.toOption ≠ some true := by
      intro hyes
      cases hr : (g.send k frame).1 with
      | error e => simp [hr, Except.toOption] at hyes
      | ok b =>
        rw [hr, Except.toOption, Option.some.injEq] at hyes
        exact hnot (by rw [hr, hyes])
    simp only [delivery?, if_neg (fun h : _ ∧ _ => hno h.1)]
  · have hpeer : g.peerOf? k = some peer := by simp [peerOf?, hc, hp]
    obtain ⟨hslot, halive⟩ := peerOf?_eq_some.1 hpeer
    have hback := hm.back k peer hslot halive
    have hget : g.get? peer = some p := by
      cases hl : c.link?.bind Link.peer with
      | none => simp [peer?, hl] at hp
      | some q =>
        simp only [peer?, hl, Option.bind_some, Option.map_eq_some_iff, Prod.mk.injEq] at hp
        obtain ⟨_, hq, rfl, rfl⟩ := hp
        exact hq
    have hopened : p.life.state = .opened := by
      have hstate := hm.opened peer k hback
      rw [state?_of_get? hget] at hstate
      exact Option.some.inj hstate
    have hperform : g.perform (.send k frame) =
        (g.modifyLink peer fun l => l.deliver frame).refresh peer := congrArg Prod.snd hsend
    have hrefresh := (Aside.refresh (g.modifyLink peer fun l => l.deliver frame) peer).sameStanding
    refine .inr ⟨peer, hm.peerOf?_back hpeer, ?_, fun x => ?_, fun x => ?_, fun x => ?_⟩
    · exact receives_eq_true.2 ⟨_, stand?_of_get? hget, hopened, hreceives⟩
    · rw [hperform, hrefresh.stand, stand?_modifyLink]
    · simp only [delivery?, hsend, hpeer, Except.toOption, Option.some.injEq, true_and, eq_comm]
    · rw [hperform, hrefresh.inbox]
      by_cases hx : x = peer
      · subst hx
        obtain ⟨l, hl, -⟩ := Option.bind_eq_some_iff.1 hback
        rw [inbox_modifyLink_self hl, if_pos rfl, inbox, hl]
        rfl
      · rw [inbox_modifyLink_of_ne _ hx, if_neg hx]

/-- Receiving reads the oldest frame, if there is one. -/
theorem receive_eq (g : Gateway) (k : Nat) : (g.receive k).1 = (g.inbox k).head? := by
  simp only [receive, inbox, link?]
  cases (g.get? k).bind Connection.link? <;> rfl

theorem inbox_receive (g : Gateway) (k x : Nat) :
    (g.perform (.receive k)).inbox x = if x = k then (g.inbox x).drop 1 else g.inbox x := by
  rw [perform, receive]
  by_cases hx : x = k
  · subst hx
    rw [if_pos rfl]
    cases hl : g.link? x with
    | none => simp [inbox, link?_modifyLink, hl]
    | some l =>
      rw [inbox_modifyLink_self hl, inbox, hl]
      rfl
  · rw [inbox_modifyLink_of_ne _ hx, if_neg hx]

theorem stand?_receive (g : Gateway) (k x : Nat) :
    (g.perform (.receive k)).stand? x = g.stand? x := by
  rw [perform, receive, stand?_modifyLink]

theorem posted_receive (g : Gateway) (handle k : Nat) :
    Posted g handle (.receive k) (g.perform (.receive k)) := by
  have hinbox := inbox_receive g k handle
  by_cases hk : handle = k
  · subst hk
    have hreading : g.reading? handle (.receive handle) = (g.inbox handle).head? := by
      rw [reading?, if_pos rfl, receive_eq]
    rw [if_pos rfl] at hinbox
    cases hi : g.inbox handle with
    | nil => exact .same rfl (by rw [hreading, hi]; rfl) (by rw [hinbox, hi]; rfl)
    | cons frame rest =>
      exact .read rfl (by rw [hreading, hi]; rfl) (by rw [hinbox, hi]; rfl)
  · rw [if_neg hk] at hinbox
    exact .same rfl (by rw [reading?, if_neg (Ne.symm hk)]) hinbox

theorem Course.posted (h : Course g g' handle) {a : Action} (hsend : ∀ k f, a ≠ .send k f)
    (hreceive : ∀ k, a ≠ .receive k) : Posted g handle a g' := by
  have hd : g.delivery? handle a = none := delivery?_of_ne hsend
  have hr : g.reading? handle a = none := reading?_of_ne hreceive
  cases h with
  | same _ inbox => exact .same hd hr inbox
  | come _ inbox _ => exact .same hd hr inbox
  | go after => exact .emptied hd hr (by rw [receives, after]; rfl) (inbox_of_stand?_none after)
  | bound _ _ stand inbox => exact .emptied hd hr (by rw [receives, stand]; rfl) inbox
  | opened _ _ _ inbox => exact .same hd hr inbox
  | ended _ stand inbox => exact .emptied hd hr (by rw [receives, stand]; rfl) inbox
  | @mode s mode _ stand inbox =>
    cases hmode : mode.receives with
    | true =>
      rw [hmode, if_pos rfl] at inbox
      exact .same hd hr inbox
    | false =>
      rw [hmode, if_neg Bool.false_ne_true] at inbox
      exact .emptied hd hr (by rw [receives, stand]; simp [hmode]) inbox

/-- What any action does to an inbox. -/
theorem posted (hs : g.Steady) (hm : g.Matched) {a : Action} (hp : g.Proper a) (handle : Nat) :
    Posted g handle a (g.perform a) := by
  by_cases hsend : ∃ k f, a = .send k f
  · obtain ⟨k, frame, rfl⟩ := hsend
    rcases send_delivers hm k frame with ⟨hsame, hnone⟩ | ⟨peer, -, -, -, hdelivery, hinbox⟩
    · exact .same (hnone handle) rfl (by rw [hsame])
    · by_cases hk : handle = peer
      · exact .delivered ((hdelivery handle).trans (if_pos hk)) rfl ((hinbox handle).trans (if_pos hk))
      · exact .same ((hdelivery handle).trans (if_neg hk)) rfl ((hinbox handle).trans (if_neg hk))
  · by_cases hreceive : ∃ k, a = .receive k
    · obtain ⟨k, rfl⟩ := hreceive
      exact posted_receive g handle k
    · have hsend : ∀ k f, a ≠ .send k f := fun k f h => hsend ⟨k, f, h⟩
      have hreceive : ∀ k, a ≠ .receive k := fun k h => hreceive ⟨k, h⟩
      exact (Course.of_effect (hs.effect hp) hsend hreceive handle).posted hsend hreceive

/-! ## Inboxes -/

/-- No inbox holds more than it can, and only a connection that receives has anything waiting. -/
structure InboxesSound (g : Gateway) : Prop where
  bounded : ∀ k, (g.inbox k).length ≤ Link.capacity
  receiving : ∀ k, g.inbox k ≠ [] → g.receives k = true

namespace InboxesSound

theorem make (config : GatewayConfig) (environment : Environment) :
    (make config environment).InboxesSound := by
  have hempty (k : Nat) : (Gateway.make config environment).inbox k = [] := by
    simp [inbox, link?, get?, Gateway.make]
  exact ⟨fun k => by simp [hempty], fun k hk => absurd (hempty k) hk⟩

theorem bounded_of_posted (h : g.InboxesSound) {a : Action} (hp : Posted g k a g') :
    (g'.inbox k).length ≤ Link.capacity := by
  have hbounded := h.bounded k
  cases hp with
  | same _ _ inbox => rwa [inbox]
  | delivered _ _ inbox =>
    rw [inbox]
    unfold Link.capacity at hbounded ⊢
    split <;> simp only [List.length_append, List.length_drop, List.length_singleton] <;> omega
  | read _ _ inbox =>
    rw [inbox, List.length_cons] at hbounded
    omega
  | emptied _ _ _ inbox => simp [inbox]

theorem receiving_of_course (h : g.InboxesSound) (hc : Course g g' k) (hk : g'.inbox k ≠ []) :
    g'.receives k = true := by
  have hreceiving := h.receiving k
  cases hc with
  | same stand inbox =>
    rw [receives_congr stand]
    exact hreceiving (inbox ▸ hk)
  | come before inbox _ =>
    exact absurd (inbox.trans (inbox_of_stand?_none (stand?_next before))) hk
  | go after => exact absurd (inbox_of_stand?_none after) hk
  | bound _ _ _ inbox => exact absurd inbox hk
  | opened before waiting stand inbox =>
    obtain ⟨s, hs, hopened, -⟩ := receives_eq_true.1 (hreceiving (inbox ▸ hk))
    obtain rfl := Option.some.inj (before.symm.trans hs)
    rw [waiting] at hopened
    cases hopened
  | ended _ _ inbox => exact absurd inbox hk
  | @mode s mode before stand inbox =>
    cases hmode : mode.receives with
    | false =>
      rw [hmode, if_neg Bool.false_ne_true] at inbox
      exact absurd inbox hk
    | true =>
      rw [hmode, if_pos rfl] at inbox
      obtain ⟨t, ht, hopened, -⟩ := receives_eq_true.1 (hreceiving (inbox ▸ hk))
      obtain rfl := Option.some.inj (before.symm.trans ht)
      exact receives_eq_true.2 ⟨_, stand, hopened, hmode⟩

theorem perform (h : g.InboxesSound) (hs : g.Steady) (hm : g.Matched) {a : Action}
    (hp : g.Proper a) : (g.perform a).InboxesSound where
  bounded := fun k => h.bounded_of_posted (posted hs hm hp k)
  receiving := by
    intro x hx
    by_cases hsend : ∃ k f, a = .send k f
    · obtain ⟨k, frame, rfl⟩ := hsend
      rcases send_delivers hm k frame with ⟨hsame, -⟩ | ⟨peer, -, hpeer, hstand, -, hinbox⟩
      · rw [hsame] at hx ⊢
        exact h.receiving x hx
      · rw [receives_congr (hstand x)]
        by_cases hxp : x = peer
        · rw [hxp]
          exact hpeer
        · rw [hinbox, if_neg hxp] at hx
          exact h.receiving x hx
    · by_cases hreceive : ∃ k, a = .receive k
      · obtain ⟨k, rfl⟩ := hreceive
        rw [receives_congr (stand?_receive g k x)]
        refine h.receiving x fun hempty => hx ?_
        rw [inbox_receive, hempty]
        split <;> rfl
      · exact h.receiving_of_course (Course.of_effect (hs.effect hp)
          (fun k f hk => hsend ⟨k, f, hk⟩) (fun k hk => hreceive ⟨k, hk⟩) x) hx

end InboxesSound

end Gateway

end MediaGateway
