import MediaGateway.Proofs.Session.Sending

/-!
# Where a session sends media

A session that takes part in connectivity checks waits for a packet: until one comes it sends to
nowhere, and then it sends to where the first one came from. Later packets and descriptions make no
difference, until the session is closed or begins to wait anew. A session that takes part in no checks
sends to the address of the description that it has agreed with last, whatever it receives.

Little of what happens to a session has a bearing on this. `AimsAt` says in terms of these bearings
where a session sends, and `aimsAt_run` that it does. What is not understood as media is no bearing.
-/

namespace MediaGateway

/-- What has a bearing on where a session sends. -/
inductive Bearing where
  /-- The session ends. -/
  | ended
  /-- It begins to wait for a packet. -/
  | waits
  /-- It agrees with a description, with the address where that wants media if it has one. -/
  | agreed (address : Option SocketAddress)
  /-- It looks at a packet of media, with where the packet came from. -/
  | heard (source : SocketAddress)
deriving DecidableEq

namespace Bearing

/-- Where a packet came from. -/
def source? : Bearing → Option SocketAddress
  | heard source => some source
  | _ => none

/-- The address that was agreed on. -/
def address? : Bearing → Option SocketAddress
  | agreed address => address
  | _ => none

/-- Whether nothing counts that was before. -/
def isTurn : Bearing → Bool
  | ended | waits => true
  | agreed _ | heard _ => false

end Bearing

/-- Where a session sends after some bearings, and whether it waits for packets then. -/
inductive AimsAt : List Bearing → Bool → Option SocketAddress → Prop
  /-- A session that waits for packets sends to where the first one came from since it waits. -/
  | waiting (before after : List Bearing) (hafter : ∀ b ∈ after, b.isTurn = false) :
    AimsAt (before ++ .waits :: after) true (after.filterMap Bearing.source?).head?
  /-- A session that does not sends to the address that it has agreed on last since it was closed, or
  since it was made, and it agrees on nothing without an address. -/
  | told (before after : List Bearing) (hbefore : before = [] ∨ before.getLast? = some .ended)
    (hafter : ∀ b ∈ after, b.isTurn = false) (haddress : .agreed none ∉ after) :
    AimsAt (before ++ after) false (after.filterMap Bearing.address?).getLast?

/-- A datagram on a channel that is a control packet, or that is not understood. -/
def Received.IsNoMedia (channel : Channel) (datagram : List UInt8) : Prop :=
  channel = .rtcp ∨ Packet.isRtcp (datagram.take maxDatagram) = true ∨
    ∃ e, Packet.decode (datagram.take maxDatagram) = .error e

theorem Arrival.ofDatagram?_of_isNoMedia {channel : Channel} {datagram : List UInt8}
    (h : Received.IsNoMedia channel datagram) {source : SocketAddress} {a : Arrival}
    (ha : ofDatagram? channel datagram source = some a) : ∃ data, a = .rtcp data source := by
  unfold ofDatagram? Received.classify at ha
  simp only at ha
  by_cases hcontrol : channel = .rtcp ∨ Packet.isRtcp (datagram.take Received.maxDatagram) = true
  · rw [if_pos hcontrol] at ha
    exact ⟨_, (Option.some.inj ha).symm⟩
  · rw [if_neg hcontrol] at ha
    obtain ⟨hchannel, hrtcp⟩ := not_or.1 hcontrol
    obtain ⟨e, he⟩ := (h.resolve_left hchannel).resolve_left hrtcp
    rw [he] at ha
    cases ha

namespace AimsAt

variable {bearings : List Bearing} {checks : Bool} {destination : Option SocketAddress}

/-! ## One more bearing -/

theorem start : AimsAt [] false none :=
  .told [] [] (.inl rfl) nofun nofun

theorem ended (bearings : List Bearing) : AimsAt (bearings ++ [.ended]) false none := by
  have htold := told (bearings ++ [.ended]) [] (.inr List.getLast?_concat) nofun nofun
  rwa [List.append_nil] at htold

theorem waits (bearings : List Bearing) : AimsAt (bearings ++ [.waits]) true none :=
  .waiting bearings [] nofun

theorem quiet_append {after more : List Bearing} (h : ∀ b ∈ after, b.isTurn = false)
    (hmore : ∀ b ∈ more, b.isTurn = false) : ∀ b ∈ after ++ more, b.isTurn = false := by
  intro b hb
  rcases List.mem_append.1 hb with hb | hb
  · exact h b hb
  · exact hmore b hb

/-- Only a session that waits cares where packets come from, and only as long as none has come. -/
theorem heard (h : AimsAt bearings checks destination) (sources : List SocketAddress) :
    AimsAt (bearings ++ sources.map .heard) checks
      (if checks then destination.or sources.head? else destination) := by
  have hquiet : ∀ b ∈ sources.map Bearing.heard, b.isTurn = false := by
    intro b hb
    obtain ⟨source, -, rfl⟩ := List.mem_map.1 hb
    rfl
  cases h with
  | waiting before after hafter =>
    have hsources : (sources.map Bearing.heard).filterMap Bearing.source? = sources := by
      rw [List.filterMap_map]
      exact List.filterMap_some
    have hwaiting := waiting before (after ++ sources.map .heard) (quiet_append hafter hquiet)
    rw [List.filterMap_append, List.head?_append, hsources] at hwaiting
    simpa using hwaiting
  | told before after hbefore hafter haddress =>
    have hnone : (sources.map Bearing.heard).filterMap Bearing.address? = [] := by
      rw [List.filterMap_map]
      exact List.filterMap_eq_nil_iff.2 fun _ _ => rfl
    have haddress' : Bearing.agreed none ∉ after ++ sources.map .heard := by
      intro hmem
      rcases List.mem_append.1 hmem with hmem | hmem
      · exact haddress hmem
      · obtain ⟨source, -, hsource⟩ := List.mem_map.1 hmem
        cases hsource
    have htold := told before (after ++ sources.map .heard) hbefore (quiet_append hafter hquiet)
      haddress'
    rw [List.filterMap_append, hnone, List.append_nil, ← List.append_assoc] at htold
    simpa using htold

/-- Only a session that does not wait cares what it agrees on, and there has to be an address. -/
theorem agreed (h : AimsAt bearings checks destination) {address : Option SocketAddress}
    (haddress : checks = false → address.isSome = true) :
    AimsAt (bearings ++ [.agreed address]) checks (if checks then destination else address) := by
  have hquiet : ∀ b ∈ [Bearing.agreed address], b.isTurn = false := by
    intro b hb
    obtain rfl := List.mem_singleton.1 hb
    rfl
  cases h with
  | waiting before after hafter =>
    have hnone : [Bearing.agreed address].filterMap Bearing.source? = [] := rfl
    have hwaiting := waiting before (after ++ [.agreed address]) (quiet_append hafter hquiet)
    rw [List.filterMap_append, hnone, List.append_nil] at hwaiting
    simpa using hwaiting
  | told before after hbefore hafter hall =>
    obtain ⟨a, rfl⟩ := Option.isSome_iff_exists.1 (haddress rfl)
    have hall' : Bearing.agreed none ∉ after ++ [.agreed (some a)] := by
      intro hmem
      rcases List.mem_append.1 hmem with hmem | hmem
      · exact hall hmem
      · cases List.mem_singleton.1 hmem
    have htold := told before (after ++ [.agreed (some a)]) hbefore (quiet_append hafter hquiet) hall'
    have hlast : [Bearing.agreed (some a)].filterMap Bearing.address? = [a] := rfl
    rw [List.filterMap_append, hlast, List.getLast?_concat, ← List.append_assoc] at htold
    exact htold

end AimsAt

/-- Whether a call has a bearing on where a session sends. -/
def SessionCall.steers : SessionCall → Bool
  | enableIce _ | negotiate _ _ | poll _ _ | close | reset _ => true
  | openOn _ _ | configureRtcp _ _ | deliver _ | enableDtls | updateMode _ | readFrame _ | drain _
  | transmit _ _ _ _ _ => false

namespace MediaSession

variable {s : MediaSession} {c : SessionCall}

/-- Where the packets of media among some arrivals came from, up to where the socket for media
broke. -/
def sourcesWithin : List Arrival → List SocketAddress
  | [] => []
  | .rtp _ source :: rest => source :: sourcesWithin rest
  | .rtpFailure _ :: _ => []
  | .rtcp _ _ :: rest | .rtcpFailure _ :: rest => sourcesWithin rest

/-- What a call has of a bearing. -/
def bearings (s : MediaSession) : SessionCall → List Bearing
  | .enableIce _ => [.waits]
  | .negotiate d m =>
    if (s.negotiate d m).1.isOk then [.agreed (d.rtpAddress m).toOption.join] else []
  | .poll _ _ => (sourcesWithin s.inbox).map .heard
  | .close | .reset _ => [.ended]
  | .openOn _ _ | .configureRtcp _ _ | .deliver _ | .enableDtls | .updateMode _ | .readFrame _
  | .drain _ | .transmit _ _ _ _ _ => []

/-- What the calls of a run have of bearings. -/
def bearingsOf (s : MediaSession) : List SessionCall → List Bearing
  | [] => []
  | c :: rest => s.bearings c ++ (s.perform c).bearingsOf rest

/-- Whether a session waits for packets, and where it sends. -/
def outlook (s : MediaSession) : Bool × Option SocketAddress :=
  (s.ice.isSome, s.remoteRtp)

/-! ## What calls do to the outlook -/

/-- By cases on the call. -/
theorem outlook_perform (hc : c.steers = false) : (s.perform c).outlook = s.outlook := by
  cases c with
  | openOn host ports =>
    simp only [perform, openOn]
    repeat' split
    all_goals rfl
  | configureRtcp host mux =>
    simp only [perform, configureRtcp]
    repeat' split
    all_goals rfl
  | enableDtls =>
    simp only [perform, enableDtls]
    split <;> rfl
  | readFrame now =>
    simp only [perform, readFrame]
    split <;> rfl
  | drain now =>
    simp only [perform, drain]
    split <;> rfl
  | transmit m network now p overflow =>
    simp only [perform, transmit]
    repeat' split
    all_goals rfl
  | deliver _ | updateMode _ => rfl
  | enableIce _ | negotiate _ _ | poll _ _ | close | reset _ => cases hc

theorem outlook_latch (s : MediaSession) (source : SocketAddress) :
    (s.latch source).outlook =
      (s.ice.isSome, if s.ice.isSome then s.remoteRtp.or (some source) else s.remoteRtp) := by
  unfold latch outlook
  cases hice : s.ice <;> cases hremote : s.remoteRtp <;> simp [hice, hremote]

theorem outlook_follow (s : MediaSession) (ssrc : UInt32) :
    (s.follow ssrc).outlook = s.outlook := by
  unfold follow
  repeat' split
  all_goals rfl

/-- Whether the session listens makes no difference. -/
theorem outlook_receivePacket (s : MediaSession) (m : Metrics) (now : Nat) (p : Packet)
    (source : SocketAddress) :
    (s.receivePacket m now p source).1.outlook =
      (s.ice.isSome, if s.ice.isSome then s.remoteRtp.or (some source) else s.remoteRtp) := by
  rw [← s.outlook_latch source]
  unfold receivePacket
  simp only
  split
  · exact outlook_follow _ _
  · rfl

/-- By induction on what arrived; what comes first of several packets is what comes first of the
first one and the rest. -/
theorem outlook_processInbox (now : Nat) (arrivals : List Arrival) (s : MediaSession) (m : Metrics) :
    (processInbox now arrivals s m).2.1.outlook =
      (s.ice.isSome,
        if s.ice.isSome then s.remoteRtp.or (sourcesWithin arrivals).head? else s.remoteRtp) := by
  induction arrivals generalizing s m with
  | nil => simp [processInbox, outlook, sourcesWithin]
  | cons a rest ih =>
    cases a with
    | rtp p source =>
      have hpacket := s.outlook_receivePacket m now p source
      obtain ⟨hice, hremote⟩ := Prod.mk.inj hpacket
      rw [processInbox_rtp, ih, hice, hremote]
      cases s.ice.isSome with
      | false => rfl
      | true => cases s.remoteRtp <;> simp [sourcesWithin]
    | rtcp _ _ => exact ih _ m
    | rtpFailure _ => simp [processInbox, outlook, sourcesWithin]
    | rtcpFailure _ => exact ih _ m

theorem outlook_poll (s : MediaSession) (m : Metrics) (now : Nat) :
    (s.poll m now).2.1.outlook =
      (s.ice.isSome,
        if s.ice.isSome then s.remoteRtp.or (sourcesWithin s.inbox).head? else s.remoteRtp) := by
  rw [poll_session]
  exact outlook_processInbox now s.inbox s m

/-- An agreement leaves where a session sends if it waits for packets; otherwise there is an address
to send to. -/
theorem outlook_negotiate {d : Sdp.Description} {m : Sdp.MediaSection}
    (h : (s.negotiate d m).1.isOk = true) :
    let address := (d.rtpAddress m).toOption.join
    (s.negotiate d m).2.outlook = (s.ice.isSome, if s.ice.isSome then s.remoteRtp else address) ∧
      (s.ice.isSome = false → address.isSome = true) := by
  intro address
  unfold negotiate at h ⊢
  cases hterms : s.terms d m with
  | error e =>
    rw [hterms] at h
    cases h
  | ok terms =>
    obtain ⟨formats, rtp, rtcp⟩ := terms
    obtain ⟨-, hrtp, -, hsome⟩ := terms_ok hterms
    have haddress : address = rtp := by
      show (d.rtpAddress m).toOption.join = rtp
      rw [hrtp]
      rfl
    rw [haddress]
    refine ⟨?_, fun hice => hsome (by simpa using hice)⟩
    show (s.ice.isSome, if s.ice.isNone then rtp else s.remoteRtp) = _
    cases s.ice <;> rfl

/-! ## Runs -/

theorem aimsAt_negotiate {before : List Bearing} (h : AimsAt before s.ice.isSome s.remoteRtp)
    (d : Sdp.Description) (m : Sdp.MediaSection) :
    AimsAt (before ++ s.bearings (.negotiate d m)) (s.negotiate d m).2.ice.isSome
      (s.negotiate d m).2.remoteRtp := by
  show AimsAt (before ++ if (s.negotiate d m).1.isOk then _ else _) _ _
  by_cases hok : (s.negotiate d m).1.isOk = true
  · obtain ⟨houtlook, haddress⟩ := outlook_negotiate hok
    obtain ⟨hice, hremote⟩ := Prod.mk.inj houtlook
    rw [if_pos hok, hice, hremote]
    exact h.agreed haddress
  · have hkept : (s.negotiate d m).2 = s := by
      unfold negotiate at hok ⊢
      split at hok
      · exact absurd rfl hok
      · rfl
    rw [if_neg hok, List.append_nil, hkept]
    exact h

/-- A call has a session send to where its bearings say. -/
theorem aimsAt_perform {before : List Bearing} (h : AimsAt before s.ice.isSome s.remoteRtp)
    (c : SessionCall) :
    AimsAt (before ++ s.bearings c) (s.perform c).ice.isSome (s.perform c).remoteRtp := by
  cases hc : c.steers with
  | false =>
    obtain ⟨hice, hremote⟩ := Prod.mk.inj (outlook_perform (s := s) hc)
    have hnone : s.bearings c = [] := by
      cases c with
      | enableIce _ | negotiate _ _ | poll _ _ | close | reset _ => cases hc
      | _ => rfl
    rw [hnone, List.append_nil, hice, hremote]
    exact h
  | true =>
    cases c with
    | enableIce fresh => exact .waits before
    | close | reset _ => exact .ended before
    | poll m now =>
      obtain ⟨hice, hremote⟩ := Prod.mk.inj (s.outlook_poll m now)
      show AimsAt _ (s.poll m now).2.1.ice.isSome (s.poll m now).2.1.remoteRtp
      rw [hice, hremote]
      exact h.heard (sourcesWithin s.inbox)
    | negotiate d m => exact aimsAt_negotiate h d m
    | openOn _ _ | configureRtcp _ _ | deliver _ | enableDtls | updateMode _ | readFrame _ | drain _
    | transmit _ _ _ _ _ => cases hc

/-- By induction on the calls. -/
theorem aimsAt_run {before : List Bearing} (h : AimsAt before s.ice.isSome s.remoteRtp)
    (calls : List SessionCall) :
    AimsAt (before ++ s.bearingsOf calls) (s.run calls).ice.isSome (s.run calls).remoteRtp := by
  induction calls generalizing s before with
  | nil =>
    unfold bearingsOf
    rw [List.append_nil]
    exact h
  | cons c rest ih =>
    have hrest := ih (aimsAt_perform h c)
    unfold bearingsOf
    rw [← List.append_assoc]
    exact hrest

/-- A packet is handed to the socket for where the session sends. -/
theorem destination_of_handover {handover : Handover} (h : s.handover? c = some handover) :
    s.remoteRtp = some handover.outgoing.destination := by
  obtain ⟨m, network, -, rfl, hout⟩ := handover?_eq_some h
  obtain ⟨-, -, -, hremote, -, -, -⟩ := exists_of_outgoing hout
  exact hremote

/-! ## Datagrams -/

/-- Control packets do not change where packets of media came from. -/
theorem sourcesWithin_concat_rtcp (arrivals : List Arrival) (data : List UInt8)
    (source : SocketAddress) :
    sourcesWithin (arrivals ++ [.rtcp data source]) = sourcesWithin arrivals := by
  induction arrivals with
  | nil => rfl
  | cons a rest ih =>
    cases a with
    | rtp p from' => exact congrArg (from' :: ·) ih
    | rtcp _ _ | rtcpFailure _ => exact ih
    | rtpFailure _ => rfl

theorem sources_deliver_rtcp (s : MediaSession) (data : List UInt8) (source : SocketAddress) :
    sourcesWithin (s.deliver (.rtcp data source)).inbox = sourcesWithin s.inbox := by
  have hinbox : (s.deliver (.rtcp data source)).inbox =
      if s.isOpen then s.inbox ++ [.rtcp data source] else s.inbox :=
    s.inbox_perform (.deliver (.rtcp data source))
  rw [hinbox]
  split
  · exact sourcesWithin_concat_rtcp s.inbox data source
  · rfl

/-- The session, and how many datagrams were lost, after one more datagram for an address of it. -/
def takeDatagram (network : Network) (channel : Channel) (source address : SocketAddress) :
    MediaSession × Nat → List UInt8 → Except NetworkError (MediaSession × Nat)
  | (s, lost), data =>
    match network.passage source address data.length, Arrival.ofDatagram? channel data source with
    | .refused e, _ => .error e
    | _, none => .ok (s, lost)
    | .lost, some _ => .ok (s, lost + 1)
    | .delivered, some a => .ok (s.deliver a, lost)

theorem sentFrom?_eq (s : MediaSession) (network : Network) (channel : Channel)
    (source : SocketAddress) (datagrams : List (List UInt8)) :
    s.sentFrom? network channel source datagrams = (s.localAddress channel).map fun address =>
      datagrams.foldlM (takeDatagram network channel source address) (s, 0) :=
  rfl

section Datagrams

variable {network : Network} {channel : Channel} {source address : SocketAddress}
  {lost lost' : Nat} {t : MediaSession}

theorem sources_takeDatagram {data : List UInt8} (h : Received.IsNoMedia channel data)
    (ht : takeDatagram network channel source address (s, lost) data = .ok (t, lost')) :
    t.remoteRtp = s.remoteRtp ∧ sourcesWithin t.inbox = sourcesWithin s.inbox := by
  unfold takeDatagram at ht
  simp only at ht
  split at ht
  · cases ht
  · cases ht
    exact ⟨rfl, rfl⟩
  · cases ht
    exact ⟨rfl, rfl⟩
  · rename_i a _ ha
    obtain ⟨control, rfl⟩ := Arrival.ofDatagram?_of_isNoMedia h ha
    cases ht
    exact ⟨rfl, s.sources_deliver_rtcp control source⟩

/-- By induction on the datagrams. -/
theorem sources_of_datagrams {datagrams : List (List UInt8)}
    (h : ∀ data ∈ datagrams, Received.IsNoMedia channel data)
    (ht : datagrams.foldlM (takeDatagram network channel source address) (s, lost) =
      .ok (t, lost')) :
    t.remoteRtp = s.remoteRtp ∧ sourcesWithin t.inbox = sourcesWithin s.inbox := by
  induction datagrams generalizing s lost with
  | nil =>
    cases ht
    exact ⟨rfl, rfl⟩
  | cons data rest ih =>
    rw [List.foldlM_cons] at ht
    obtain ⟨⟨s', lost''⟩, hfirst, ht⟩ := exists_of_bind_eq_ok ht
    obtain ⟨hremote, hsources⟩ := sources_takeDatagram (h data List.mem_cons_self) hfirst
    obtain ⟨hremote', hsources'⟩ := ih (fun d hd => h d (List.mem_cons_of_mem data hd)) ht
    exact ⟨hremote'.trans hremote, hsources'.trans hsources⟩

end Datagrams

/-- In any run, a session that takes part in connectivity checks sends to nowhere until it looks at the
first packet of media since it waits for one, and then to where this came from, whatever arrives or is
agreed on later; a session that does not sends to the address of the description that it has agreed
with last, whatever arrives. There is where the packets go that it hands to its socket. Datagrams
from outside that are control packets or not understood have no bearing on this. -/
theorem media_is_not_redirected (seat : Seat) (config : SessionConfig) (numbering : Numbering)
    (calls : List SessionCall) :
    let fresh := make seat config numbering
    let s := fresh.run calls
    AimsAt (fresh.bearingsOf calls) s.ice.isSome s.remoteRtp ∧
    (∀ c handover, s.handover? c = some handover →
      s.remoteRtp = some handover.outgoing.destination) ∧
    ∀ network channel source datagrams t lost,
      s.sentFrom? network channel source datagrams = some (.ok (t, lost)) →
      (∀ data ∈ datagrams, Received.IsNoMedia channel data) →
      t.remoteRtp = s.remoteRtp ∧ ∀ m now, t.bearings (.poll m now) = s.bearings (.poll m now) := by
  intro fresh s
  refine ⟨?_, ?_, ?_⟩
  · exact aimsAt_run (s := fresh) .start calls
  · intro c handover hover
    exact destination_of_handover hover
  · intro network channel source datagrams t lost hsent hnone
    rw [sentFrom?_eq] at hsent
    obtain ⟨address, -, hfold⟩ := Option.map_eq_some_iff.1 hsent
    obtain ⟨hremote, hsources⟩ := sources_of_datagrams hnone hfold
    refine ⟨hremote, ?_⟩
    intro m now
    exact congrArg (List.map Bearing.heard) hsources

/-- A session that has agreed on an address and then waits for a packet. After a control packet it
looks at packets from two other addresses, agrees again in between, and listens only in the end. -/
def latchingCalls : List SessionCall :=
  let offered : Sdp.MediaSection := { media := "audio", port := 4000, formats := ["0"] }
  let d : Sdp.Description :=
    { origin := .make "1" "127.0.0.1", sessionName := "-", connection := some (.make "127.0.0.1")
      media := [offered] }
  let packet (n : UInt16) (port : UInt16) : SessionCall :=
    .deliver (.rtp (.make 0 n 160 7 [9] false) ⟨.loopback, port⟩)
  [.openOn ⟨.isolated, .loopback, []⟩ (.make 0 0), .negotiate d offered, .enableIce ⟨"u", "p"⟩,
    .deliver (.rtcp [] ⟨.loopback, 5001⟩), .poll {} 10, packet 1 6000, packet 2 7000, .poll {} 20,
    .negotiate d offered, .updateMode .sendRecv, packet 3 7000, .poll {} 30]

/-- What it sends goes to where the first packet came from, also after more control packets. -/
theorem media_is_not_redirected_after_first_packet :
    let fresh := make ⟨1, .audio⟩ ⟨.default, Profile.audio, none⟩ default
    let s := fresh.run latchingCalls
    let wire : Network := { Network.isolated with passage := fun _ _ _ => .delivered }
    fresh.bearingsOf latchingCalls = [.agreed (some ⟨.loopback, 4000⟩), .waits,
      .heard ⟨.loopback, 6000⟩, .heard ⟨.loopback, 7000⟩, .agreed (some ⟨.loopback, 4000⟩),
      .heard ⟨.loopback, 7000⟩] ∧
    (∃ handover, s.handover? (.transmit {} wire 40 (.media [1] false)) = some handover ∧
      handover.outgoing.destination = ⟨.loopback, 6000⟩) ∧
    ∃ t, s.sentFrom? wire .rtp ⟨.loopback, 8000⟩ [[0], [0x80, 200]] = some (.ok (t, 0)) ∧
      t.remoteRtp = some ⟨.loopback, 6000⟩ := by
  intro fresh s wire
  have hremote : s.remoteRtp = some ⟨.loopback, 6000⟩ := by decide +kernel
  obtain ⟨-, hhandover, hdatagrams⟩ :=
    media_is_not_redirected ⟨1, .audio⟩ ⟨.default, Profile.audio, none⟩ default latchingCalls
  refine ⟨by decide +kernel, ?_, ?_⟩
  · have hsome : (s.handover? (.transmit {} wire 40 (.media [1] false))).isSome = true := by
      decide +kernel
    obtain ⟨handover, hover⟩ := Option.isSome_iff_exists.1 hsome
    have hdestination := hhandover _ handover hover
    rw [hremote] at hdestination
    exact ⟨handover, hover, (Option.some.inj hdestination).symm⟩
  · have hsent : s.sentFrom? wire .rtp ⟨.loopback, 8000⟩ [[0], [0x80, 200]] =
        some (.ok (s.deliver (.rtcp [0x80, 200] ⟨.loopback, 8000⟩), 0)) := by
      decide +kernel
    have hnone : ∀ data ∈ [[0], [0x80, 200]], Received.IsNoMedia .rtp data := by
      intro data hdata
      rcases List.mem_pair.1 hdata with rfl | rfl
      · exact .inr (.inr ⟨_, rfl⟩)
      · exact .inr (.inl (by decide))
    obtain ⟨hkept, -⟩ := hdatagrams wire .rtp _ _ _ _ hsent hnone
    exact ⟨_, hsent, hkept.trans hremote⟩

end MediaSession

end MediaGateway
