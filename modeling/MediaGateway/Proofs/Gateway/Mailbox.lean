import MediaGateway.Proofs.Gateway.Delivery

/-!
# Mailboxes

An onlooker keeps a `Mailbox` for a connection: which frames were delivered to it since it was bound,
by whom and in which period of receiving, and which ones it has read. The inbox always holds the
frames that were delivered last (`Served`): those that were read come from before, in order, and
whatever else is missing gave way to a newer frame or was dropped when the connection ceased to
receive.
-/

namespace MediaGateway

/-- A frame that was delivered. -/
structure Letter where
  frame : Frame
  /-- Who sent it. -/
  sender : Nat
  /-- How often the sender was bound then. -/
  binding : Option Nat
  /-- How often the receiver had ceased to receive then, since it was bound. -/
  period : Nat
deriving DecidableEq

/-- What was delivered to a connection and what it has read since it was bound. -/
structure Mailbox where
  /-- How often the connection has ceased to receive. -/
  period : Nat := 0
  /-- What was delivered, the latest last. -/
  sent : List Letter := []
  /-- What was read, the latest last. -/
  read : List Frame := []
deriving DecidableEq

namespace Mailbox

/-- The mailbox of a connection after an action. It starts afresh with every binding. -/
def after (m : Mailbox) (g : Gateway) (handle : Nat) (a : Action) : Mailbox :=
  let g' := g.perform a
  if g'.binding? handle = g.binding? handle then
    { period := if g.receives handle && !g'.receives handle then m.period + 1 else m.period
      sent := m.sent ++ ((g.delivery? handle a).map fun (sender, frame) =>
        ⟨frame, sender, g.binding? sender, m.period⟩).toList
      read := m.read ++ (g.reading? handle a).toList }
  else {}

/-- The mailbox of a connection after actions. -/
def along (m : Mailbox) (g : Gateway) (handle : Nat) : List Action → Mailbox
  | [] => m
  | a :: rest => (m.after g handle a).along (g.perform a) handle rest

/-- The letters delivered last wait in an inbox, all from the present period; what was read comes from
before, in order. -/
def Holds (m : Mailbox) (inbox : List Frame) : Prop :=
  ∃ gone waiting, m.sent = gone ++ waiting ∧ waiting.map Letter.frame = inbox ∧
    m.read.Sublist (gone.map Letter.frame) ∧ ∀ l ∈ waiting, l.period = m.period

namespace Holds

variable {m : Mailbox} {inbox : List Frame}

/-- A letter comes, for which others may give way. -/
theorem deliver (h : m.Holds inbox) (n : Nat) {l : Letter} (hl : l.period = m.period) :
    Holds { m with sent := m.sent ++ [l] } (inbox.drop n ++ [l.frame]) := by
  obtain ⟨gone, waiting, hsent, hwaiting, hread, hperiod⟩ := h
  refine ⟨gone ++ waiting.take n, waiting.drop n ++ [l], ?_, ?_, ?_, fun l' hl' => ?_⟩
  · rw [hsent, List.append_assoc, List.append_assoc, ← List.append_assoc (waiting.take n),
      List.take_append_drop]
  · rw [← hwaiting, List.map_append, List.map_drop]
    rfl
  · rw [List.map_append]
    exact hread.trans (List.sublist_append_left _ _)
  · rcases List.mem_append.1 hl' with hold | hnew
    · exact hperiod l' (List.mem_of_mem_drop hold)
    · rw [List.mem_singleton.1 hnew, hl]

/-- The first letter is read. -/
theorem take {frame : Frame} (h : m.Holds (frame :: inbox)) :
    Holds { m with read := m.read ++ [frame] } inbox := by
  obtain ⟨gone, waiting, hsent, hwaiting, hread, hperiod⟩ := h
  obtain ⟨l, rest, rfl, rfl, hrest⟩ := List.map_eq_cons_iff.1 hwaiting
  refine ⟨gone ++ [l], rest, by simp [hsent], hrest, ?_,
    fun l' hl' => hperiod l' (List.mem_cons_of_mem l hl')⟩
  rw [List.map_append]
  exact hread.append (.refl _)

/-- All letters that wait are dropped. -/
theorem drop (h : m.Holds inbox) : m.Holds [] := by
  obtain ⟨gone, waiting, hsent, -, hread, -⟩ := h
  refine ⟨gone ++ waiting, [], by simp [hsent], rfl, ?_, fun _ hl => absurd hl List.not_mem_nil⟩
  rw [List.map_append]
  exact hread.trans (List.sublist_append_left _ _)

/-- Where nothing waits, another period may begin. -/
theorem withPeriod (h : m.Holds inbox) {period : Nat} (hp : inbox ≠ [] → period = m.period) :
    Holds { m with period } inbox := by
  obtain ⟨gone, waiting, hsent, hwaiting, hread, hperiod⟩ := h
  refine ⟨gone, waiting, hsent, hwaiting, hread, fun l hl => ?_⟩
  have hne : inbox ≠ [] := by
    rw [← hwaiting]
    exact fun hnil => List.ne_nil_of_mem hl (List.map_eq_nil_iff.1 hnil)
  exact (hperiod l hl).trans (hp hne).symm

end Holds

end Mailbox

namespace Gateway

variable {g g' : Gateway} {handle k : Nat} {m : Mailbox}

/-! ## Any action -/

/-- Sending and receiving change nothing about where connections stand. -/
theorem course_or_mail (hs : g.Steady) (hm : g.Matched) {a : Action} (hp : g.Proper a) :
    (∀ k, Course g (g.perform a) k) ∨ ∀ k, (g.perform a).stand? k = g.stand? k := by
  by_cases hsend : ∃ k f, a = .send k f
  · obtain ⟨k, frame, rfl⟩ := hsend
    rcases send_delivers hm k frame with ⟨hsame, -⟩ | ⟨peer, -, -, hstand, -⟩
    · exact .inr fun x => by rw [hsame]
    · exact .inr hstand
  · by_cases hreceive : ∃ k, a = .receive k
    · obtain ⟨k, rfl⟩ := hreceive
      exact .inr (stand?_receive g k)
    · exact .inl (Course.of_effect (hs.effect hp) (fun k f h => hsend ⟨k, f, h⟩)
        fun k h => hreceive ⟨k, h⟩)

/-- Whoever has a peer had it before, or was waiting for one. -/
theorem slot?_before (hm : g.Matched) {a : Action} (he : Effect g a g') {p : Nat}
    (hp : g'.slot? k = some p) : g.slot? k = some p ∨ g.state? k = some .halfOpen := by
  have hthinned (ht : Thinned g g') : g.slot? k = some p := by
    rcases ht.slot k with hsame | ⟨hnone, -⟩
    · rwa [← hsame]
    · rw [hnone] at hp
      cases hp
  rcases hm.relinked he with hr | ⟨x, y, g₁, cx, cy, -, hjoins⟩
  · cases hr with
    | stay h => exact .inl (h.slot k ▸ hp)
    | lapses h => exact .inl (hthinned (.of_lapses h))
    | close h => exact .inl (hthinned (.of_ending h rfl))
    | leave _ _ slot _ =>
      rw [slot] at hp
      split at hp
      · cases hp
      · exact .inl hp
  · rcases hjoins.slot?_cases hp with ⟨rfl, -⟩ | ⟨rfl, -⟩ | ⟨-, -, hp⟩
    · exact .inr hjoins.state?_left
    · exact .inr hjoins.state?_right
    · exact .inl hp

/-- A frame is delivered by the peer to a connection that receives. -/
theorem of_delivery? (hm : g.Matched) {a : Action} {sender : Nat} {frame : Frame}
    (hd : g.delivery? handle a = some (sender, frame)) :
    g.peerOf? handle = some sender ∧ g.receives handle = true := by
  by_cases hsend : ∃ k f, a = .send k f
  · obtain ⟨k, f, rfl⟩ := hsend
    rcases send_delivers hm k f with ⟨-, hnone⟩ | ⟨peer, hpeer, hreceives, -, hdelivery, -⟩
    · rw [hnone] at hd
      cases hd
    · rw [hdelivery] at hd
      split at hd
      · rename_i hx
        simp only [Option.some.injEq, Prod.mk.injEq] at hd
        obtain ⟨rfl, -⟩ := hd
        exact ⟨hx ▸ hpeer, hx ▸ hreceives⟩
      · cases hd
  · rw [delivery?_of_ne fun k f h => hsend ⟨k, f, h⟩] at hd
    cases hd

/-! ## The mailbox and the inbox -/

/-- What a mailbox of a connection says about it. -/
structure Served (g : Gateway) (handle : Nat) (m : Mailbox) : Prop where
  holds : m.Holds (g.inbox handle)
  /-- Nothing comes before there is a peer. -/
  fresh : g.state? handle = some .halfOpen → m.sent = []
  /-- All letters are from the peer, in its present binding. -/
  peer : ∀ p, g.slot? handle = some p → ∀ l ∈ m.sent, l.sender = p ∧
    ((g.stand? p).isSome → g.binding? p = l.binding)
  /-- Also where the peer is no longer there, they are from one sender in one binding. -/
  session : ∃ sender binding, ∀ l ∈ m.sent, l.sender = sender ∧ l.binding = binding

namespace Served

theorem nil (hinbox : g.inbox handle = []) : Served g handle {} where
  holds := ⟨[], [], rfl, hinbox.symm, .refl [], fun _ hl => absurd hl List.not_mem_nil⟩
  fresh := fun _ => rfl
  peer := fun _ _ _ hl => absurd hl List.not_mem_nil
  session := ⟨0, none, fun _ hl => absurd hl List.not_mem_nil⟩

/-- The frames that wait after an action are from the end of what was delivered. -/
theorem holds_after (h : Served g handle m) {a : Action} (hi : (g.perform a).InboxesSound)
    (hp : Posted g handle a (g.perform a))
    (hsame : (g.perform a).binding? handle = g.binding? handle) :
    (m.after g handle a).Holds ((g.perform a).inbox handle) := by
  have hreceiving := hi.receiving handle
  simp only [Mailbox.after, if_pos hsame]
  generalize g.perform a = g' at *
  -- Where something waits, the period goes on.
  have hgoes (hne : g'.inbox handle ≠ []) :
      (if g.receives handle && !g'.receives handle then m.period + 1 else m.period) =
        m.period := by
    rw [hreceiving hne]
    simp
  cases hp with
  | same hd hr inbox =>
    rw [inbox] at hgoes ⊢
    simpa [hd, hr] using h.holds.withPeriod hgoes
  | @delivered sender frame hd hr inbox =>
    obtain ⟨n, hn⟩ : ∃ n, g'.inbox handle = (g.inbox handle).drop n ++ [frame] := by
      rw [inbox]
      split
      · exact ⟨1, rfl⟩
      · exact ⟨0, rfl⟩
    have hdelivered := h.holds.deliver n (l := ⟨frame, sender, g.binding? sender, m.period⟩) rfl
    rw [hn] at hgoes ⊢
    simpa [hd, hr] using hdelivered.withPeriod hgoes
  | @read frame hd hr inbox =>
    have hread := h.holds
    rw [inbox] at hread
    simpa [hd, hr] using hread.take.withPeriod hgoes
  | emptied hd hr _ inbox =>
    rw [inbox] at hgoes ⊢
    simpa [hd, hr] using h.holds.drop.withPeriod hgoes

/-- Of the letters after an action, each is an old one or comes from the peer now. -/
theorem mem_sent_after (hm : g.Matched) {a : Action} {l : Letter}
    (hsame : (g.perform a).binding? handle = g.binding? handle)
    (hl : l ∈ (m.after g handle a).sent) :
    l ∈ m.sent ∨ (g.peerOf? handle = some l.sender ∧ l.binding = g.binding? l.sender ∧
      g.receives handle = true) := by
  simp only [Mailbox.after, if_pos hsame] at hl
  rcases List.mem_append.1 hl with hold | hnew
  · exact .inl hold
  · rw [Option.mem_toList, Option.map_eq_some_iff] at hnew
    obtain ⟨⟨sender, frame⟩, hd, rfl⟩ := hnew
    obtain ⟨hpeer, hreceives⟩ := of_delivery? hm hd
    exact .inr ⟨hpeer, rfl, hreceives⟩

/-- Who waits for a peer gets nothing. -/
theorem sent_of_waiting (h : Served g handle m) (hm : g.Matched) {a : Action}
    (hsame : (g.perform a).binding? handle = g.binding? handle)
    (hstate : g.state? handle = some .halfOpen) : (m.after g handle a).sent = [] := by
  refine List.eq_nil_iff_forall_not_mem.2 fun l hl => ?_
  rcases mem_sent_after hm hsame hl with hold | ⟨-, -, hreceives⟩
  · rw [h.fresh hstate] at hold
    exact List.not_mem_nil hold
  · obtain ⟨s, hs, hopened, -⟩ := receives_eq_true.1 hreceives
    rw [state?_of_stand? hs, hopened] at hstate
    cases hstate

/-- The peer that a connection has after an action was its peer before, and was not bound meanwhile;
so all letters are from its present binding. -/
theorem peer_after (h : Served g handle m) (hs : g.Steady) (hm : g.Matched) {a : Action}
    (hp : g.Proper a) (hsame : (g.perform a).binding? handle = g.binding? handle) {p : Nat}
    (hslot : (g.perform a).slot? handle = some p) {l : Letter}
    (hl : l ∈ (m.after g handle a).sent) :
    l.sender = p ∧
      (((g.perform a).stand? p).isSome → (g.perform a).binding? p = l.binding) := by
  rcases slot?_before hm (hs.effect hp) hslot with hslot | hstate
  · have hkept (halive : ((g.perform a).stand? p).isSome) :
        (g.stand? p).isSome ∧ (g.perform a).binding? p = g.binding? p := by
      rcases course_or_mail hs hm hp with hcourse | hstand
      · have hbefore := (hcourse p).alive_before (hm.placed handle p hslot) halive
        have hopened := hm.opened p handle (hm.back handle p hslot hbefore)
        exact ⟨hbefore, (hcourse p).binding?_of_opened hopened halive⟩
      · rw [hstand] at halive
        exact ⟨halive, by rw [binding?, hstand, binding?]⟩
    rcases mem_sent_after hm hsame hl with hold | ⟨hpeer, hnew, -⟩
    · obtain ⟨hsender, hold⟩ := h.peer p hslot l hold
      refine ⟨hsender, fun halive => ?_⟩
      obtain ⟨hbefore, hbinding⟩ := hkept halive
      rw [hbinding, hold hbefore]
    · obtain rfl := Option.some.inj (hslot.symm.trans (peerOf?_eq_some.1 hpeer).1)
      exact ⟨rfl, fun halive => by rw [(hkept halive).2, hnew]⟩
  · rw [h.sent_of_waiting hm hsame hstate] at hl
    exact absurd hl List.not_mem_nil

/-- A new letter is from the peer as the old ones are. -/
theorem session_after (h : Served g handle m) (hm : g.Matched) {a : Action}
    (hsame : (g.perform a).binding? handle = g.binding? handle) :
    ∃ sender binding, ∀ l ∈ (m.after g handle a).sent, l.sender = sender ∧ l.binding = binding := by
  cases hpeer : g.peerOf? handle with
  | none =>
    obtain ⟨sender, binding, hold⟩ := h.session
    refine ⟨sender, binding, fun l hl => ?_⟩
    rcases mem_sent_after hm hsame hl with hl | ⟨hnew, -⟩
    · exact hold l hl
    · rw [hpeer] at hnew
      cases hnew
  | some p =>
    obtain ⟨hslot, halive⟩ := peerOf?_eq_some.1 hpeer
    refine ⟨p, g.binding? p, fun l hl => ?_⟩
    rcases mem_sent_after hm hsame hl with hl | ⟨hnew, hbinding, -⟩
    · obtain ⟨hsender, hbinding⟩ := h.peer p hslot l hl
      exact ⟨hsender, (hbinding halive).symm⟩
    · obtain hsender := Option.some.inj (hnew.symm.trans hpeer)
      exact ⟨hsender, by rw [hbinding, hsender]⟩

/-- Every action keeps the mailbox in accord with the connection. -/
theorem perform (h : Served g handle m) (hs : g.Steady) (hm : g.Matched) (hi : g.InboxesSound)
    {a : Action} (hp : g.Proper a) : Served (g.perform a) handle (m.after g handle a) := by
  have hcourse := course_or_mail hs hm hp
  by_cases hsame : (g.perform a).binding? handle = g.binding? handle
  · refine ⟨h.holds_after (hi.perform hs hm hp) (posted hs hm hp handle) hsame, fun hstate => ?_,
      fun p hslot l hl => h.peer_after hs hm hp hsame hslot hl, h.session_after hm hsame⟩
    refine h.sent_of_waiting hm hsame ?_
    rcases hcourse with hcourse | hstand
    · exact (hcourse handle).halfOpen_before hstate hsame
    · rwa [state?, hstand] at hstate
  · rw [Mailbox.after, if_neg hsame]
    refine .nil ?_
    rcases hcourse with hcourse | hstand
    · exact (hcourse handle).inbox_of_rebound hsame
    · exact absurd (by rw [binding?, hstand, binding?]) hsame

/-- By induction on the actions. -/
theorem run (h : Served g handle m) (hs : g.Steady) (hm : g.Matched) (hi : g.InboxesSound)
    {actions : List Action} (hp : g.Throughout Proper actions) :
    (g.run actions).Steady ∧ (g.run actions).Matched ∧ (g.run actions).InboxesSound ∧
      Served (g.run actions) handle (m.along g handle actions) := by
  induction actions generalizing g m with
  | nil => exact ⟨hs, hm, hi, h⟩
  | cons a rest ih =>
    exact ih (h.perform hs hm hi hp.1) (hs.perform hp.1) (hm.effect (hs.effect hp.1))
      (hi.perform hs hm hp.1) hp.2

end Served

/-- What is read from an inbox: the frames that were delivered to it, in order and each at most once.
Of those that were delivered since the connection was bound, the last ones wait, all from the present
period of receiving, and those that were read come from before. All are from one sender in one
binding: the peer, while it is there. There is room for 64 frames, and only a connection that is open
in a mode for receiving has any. Sending that delivers nothing changes nothing. Every action leaves an
inbox as it is but for a frame that it delivers, for which the oldest of 64 gives way, or the oldest
frame that it reads, unless the connection receives no longer and loses what waits. -/
theorem delivery_in_order (config : GatewayConfig) (environment : Environment)
    {actions : List Action} (hp : (make config environment).Throughout Proper actions)
    (handle : Nat) :
    let g := (make config environment).run actions
    let m := Mailbox.along {} (make config environment) handle actions
    (∃ gone waiting, m.sent = gone ++ waiting ∧ waiting.map Letter.frame = g.inbox handle ∧
      m.read.Sublist (gone.map Letter.frame) ∧ ∀ l ∈ waiting, l.period = m.period) ∧
    (∃ sender binding, ∀ l ∈ m.sent, l.sender = sender ∧ l.binding = binding) ∧
    (∀ p, g.peerOf? handle = some p → ∀ l ∈ m.sent, l.sender = p ∧ l.binding = g.binding? p) ∧
    (g.inbox handle).length ≤ 64 ∧
    (g.inbox handle ≠ [] → g.receives handle = true) ∧
    (g.receive handle).1 = (g.inbox handle).head? ∧
    (∀ frame, (g.send handle frame).1 ≠ .ok true → (g.send handle frame).2 = g) ∧
    ∀ a, g.Proper a → Posted g handle a (g.perform a) := by
  intro g m
  have hmake : Served (make config environment) handle {} := .nil (by simp [inbox, link?, get?, make])
  obtain ⟨hs, hm, hi, h⟩ := hmake.run (.make config environment) (.make config environment)
    (.make config environment) hp
  refine ⟨h.holds, h.session, fun p hpeer l hl => ?_, hi.bounded handle, hi.receiving handle,
    receive_eq g handle, fun frame hnot => ?_, fun a ha => posted hs hm ha handle⟩
  · obtain ⟨hslot, halive⟩ := peerOf?_eq_some.1 hpeer
    obtain ⟨hsender, hbinding⟩ := h.peer p hslot l hl
    exact ⟨hsender, (hbinding halive).symm⟩
  · rcases send_cases g handle frame with ⟨-, hsame⟩ | ⟨_, _, _, -, -, -, -, hsend⟩
    · exact hsame
    · rw [hsend] at hnot
      exact absurd rfl hnot

/-- Of three frames the first is read, the second is dropped when the receiver stops to receive, and
the third waits in the next period of receiving. -/
theorem delivery_in_order_twoPeriods :
    let frame (n : UInt16) : Frame := ⟨n, 0, 0, 20, false, 7, [], .make 0 "pcmu" 8000⟩
    let actions : List Action := [.create .internal, .create .internal, .bind 0, .bind 1, .join 0 1,
      .setMode 0 .sendOnly, .setMode 1 .recvOnly, .send 0 (frame 1), .send 0 (frame 2), .receive 1,
      .setMode 1 .inactive, .send 0 (frame 4), .setMode 1 .sendRecv, .send 0 (frame 3)]
    let g := (make {} .isolated).run actions
    let m := Mailbox.along {} (make {} .isolated) 1 actions
    m.sent.map Letter.frame = [frame 1, frame 2, frame 3] ∧ m.read = [frame 1] ∧ m.period = 1 ∧
      g.inbox 1 = [frame 3] ∧ (g.receive 1).1 = some (frame 3) ∧ g.receives 1 = true ∧
      ∀ l ∈ m.sent, l.sender = 0 ∧ l.binding = g.binding? 0 := by
  intro frame actions g m
  have hp : (make {} .isolated).Throughout Proper actions := by decide +kernel
  have hinbox : g.inbox 1 = [frame 3] := by decide +kernel
  have hpeer : g.peerOf? 1 = some 0 := by decide +kernel
  obtain ⟨-, -, hsender, -, hreceives, hnext, -⟩ := delivery_in_order {} .isolated hp 1
  refine ⟨by decide +kernel, by decide +kernel, by decide +kernel, hinbox, ?_, ?_, hsender 0 hpeer⟩
  · exact hnext.trans (by rw [hinbox]; rfl)
  · exact hreceives (by rw [hinbox]; simp)

end Gateway

end MediaGateway
