import MediaGateway.Proofs.JitterBuffer.Times
import MediaGateway.Proofs.Session.Reception

/-!
# A stream of a new source

When a session that plays the packets of one source hears another one, it forgets all that it has made
of received packets. To say that nothing is left, two sessions are run side by side. One of them has
received packets of other sources first, whatever they were, the other one has not; the rest of what is
done with them is the same. Then packets of the new source arrive, and they are all that arrives.

As long as the source has not been heard, the second session has the reception of the first one without
what it has made of packets (`Reception.cleared`). From the first packet of the source on, the two have
the same reception, and so there is no more difference in what they make of packets and what they play.
-/

namespace MediaGateway

/-! ## Packets of a source -/

namespace Arrival

/-- Whether a packet of a source has arrived. -/
def isFrom (ssrc : UInt32) : Arrival → Bool
  | rtp p _ => p.ssrc == ssrc
  | _ => false

/-- Whether a packet of another source has arrived. -/
def isFromOther (ssrc : UInt32) : Arrival → Bool
  | rtp p _ => p.ssrc != ssrc
  | _ => false

end Arrival

/-- Packets of a source come, and none of another source comes behind them. -/
def OthersFirst (ssrc : UInt32) (arrivals : List Arrival) : Prop :=
  arrivals.Pairwise fun a b => a.isFrom ssrc = true → b.isFromOther ssrc = false

/-- The arrivals without packets of other sources. -/
def withoutOthers (ssrc : UInt32) (arrivals : List Arrival) : List Arrival :=
  arrivals.filter fun a => !a.isFromOther ssrc

namespace SessionCall

/-- What arrives by a call. -/
def arrival? : SessionCall → Option Arrival
  | deliver a => some a
  | _ => none

/-- Whether a packet of another source arrives by a call. -/
def bringsOther (ssrc : UInt32) (c : SessionCall) : Bool :=
  c.arrival?.any (Arrival.isFromOther ssrc)

/-- The packet of media that arrives by a call. -/
def packet? : SessionCall → Option Packet
  | deliver (.rtp p _) => some p
  | _ => none

end SessionCall

section Arrivals

variable {ssrc : UInt32} {arrivals : List Arrival} {a : Arrival} {c : SessionCall}

theorem withoutOthers_of_none (h : ∀ a ∈ arrivals, a.isFromOther ssrc = false) :
    withoutOthers ssrc arrivals = arrivals := by
  simpa [withoutOthers] using h

/-- If no packet of a source arrives by a call, those that arrive are of other ones. -/
theorem bringsOther_of_other (h : ∀ p ∈ c.packet?, p.ssrc ≠ ssrc) :
    c.bringsOther ssrc = c.packet?.isSome ∧ ∀ a ∈ c.arrival?, a.isFrom ssrc = false := by
  cases c with
  | deliver a =>
    cases a with
    | rtp p source =>
      have hp : p.ssrc ≠ ssrc := h p rfl
      refine ⟨by simp [SessionCall.bringsOther, SessionCall.arrival?, SessionCall.packet?,
        Arrival.isFromOther, hp], fun a ha => ?_⟩
      cases ha
      simp [Arrival.isFrom, hp]
    | _ => exact ⟨rfl, fun a ha => by cases ha; rfl⟩
  | _ => exact ⟨rfl, nofun⟩

theorem bringsOther_of_own (h : ∀ p ∈ c.packet?, p.ssrc = ssrc) :
    c.bringsOther ssrc = false ∧ ∀ a ∈ c.arrival?, a.isFromOther ssrc = false := by
  have hown : ∀ a ∈ c.arrival?, a.isFromOther ssrc = false := fun a ha => by
    cases c with
    | deliver a =>
      cases ha
      cases a with
      | rtp p source =>
        have hp : p.ssrc = ssrc := h p rfl
        simp [Arrival.isFromOther, hp]
      | _ => rfl
    | _ => cases ha
  refine ⟨?_, hown⟩
  cases ha : c.arrival? with
  | none => simp [SessionCall.bringsOther, ha]
  | some a => simpa [SessionCall.bringsOther, ha] using hown a ha

/-- Packets of a source come behind those that are not of it. -/
theorem othersFirst_append {history later : List SessionCall}
    (hhistory : ∀ c ∈ history, ∀ p ∈ c.packet?, p.ssrc ≠ ssrc)
    (hlater : ∀ c ∈ later, ∀ p ∈ c.packet?, p.ssrc = ssrc) :
    OthersFirst ssrc
      (history.filterMap SessionCall.arrival? ++ later.filterMap SessionCall.arrival?) := by
  have hold : ∀ a ∈ history.filterMap SessionCall.arrival?, a.isFrom ssrc = false := fun a ha => by
    obtain ⟨c, hc, harrives⟩ := List.mem_filterMap.1 ha
    exact (bringsOther_of_other (hhistory c hc)).2 a harrives
  have hnew : ∀ a ∈ later.filterMap SessionCall.arrival?, a.isFromOther ssrc = false :=
    fun a ha => by
      obtain ⟨c, hc, harrives⟩ := List.mem_filterMap.1 ha
      exact (bringsOther_of_own (hlater c hc)).2 a harrives
  refine List.pairwise_append.2 ⟨?_, ?_, fun _ _ b hb _ => hnew b hb⟩
  · exact List.pairwise_of_forall_mem_list fun a ha _ _ hfrom => by simp [hold a ha] at hfrom
  · exact List.pairwise_of_forall_mem_list fun _ _ b hb _ => hnew b hb

theorem leftBehind_withoutOthers (ssrc : UInt32) (arrivals : List Arrival) :
    Reception.leftBehind (withoutOthers ssrc arrivals) =
      withoutOthers ssrc (Reception.leftBehind arrivals) := by
  induction arrivals with
  | nil => rfl
  | cons a rest ih =>
    cases a with
    | rtp p source =>
      cases hp : p.ssrc != ssrc <;>
        simpa [withoutOthers, Arrival.isFromOther, hp, Reception.leftBehind] using ih
    | rtcp _ _ | rtcpFailure _ => exact ih
    | rtpFailure _ => rfl

theorem withoutOthers_concat (ssrc : UInt32) (arrivals : List Arrival) (a : Arrival) :
    withoutOthers ssrc (arrivals ++ [a]) =
      withoutOthers ssrc arrivals ++ if a.isFromOther ssrc then [] else [a] := by
  cases ha : a.isFromOther ssrc <;> simp [withoutOthers, ha]

theorem leftBehind_suffix (arrivals : List Arrival) : Reception.leftBehind arrivals <:+ arrivals := by
  induction arrivals with
  | nil => exact List.suffix_rfl
  | cons a rest ih =>
    cases a with
    | rtpFailure _ => exact List.suffix_cons _ rest
    | _ => exact ih.trans (List.suffix_cons _ rest)

end Arrivals

/-- All media of a table is the preferred one. -/
def FormatTable.HasOneMedia (t : FormatTable) : Prop :=
  ∀ f ∈ t.toList, f.isTelephoneEvent = false → t.media? = some f

/-! ## What a buffer keeps when it is reset -/

namespace JitterBuffer

variable {b b' : JitterBuffer}

/-- The media that a buffer knows has the rate of the clock, if it has any. -/
def Tuned (b : JitterBuffer) : Prop :=
  ∀ payloadType f, b.formats.find? payloadType = some f → f.isTelephoneEvent = false →
    0 < f.clockRate.toNat → f.clockRate = b.clock.rate

theorem Tuned.congr (h : b.Tuned) (hsettings : b'.settings = b.settings)
    (hrate : b'.clock.rate = b.clock.rate) : b'.Tuned := by
  have hformats : b'.formats = b.formats := congrArg Prod.snd hsettings
  intro payloadType f hf hmedia hpos
  rw [hformats] at hf
  exact (h payloadType f hf hmedia hpos).trans hrate.symm

theorem Tuned.rate_writeMapped (h : b.Tuned) (now : Nat) (p : Packet) :
    (b.writeMapped now p).2.clock.rate = b.clock.rate := by
  unfold writeMapped
  split
  · rename_i f hf
    rw [rate_write, rate_adoptRate]
    split
    · rename_i hsets
      exact h _ f hf hsets.1 hsets.2
    · rfl
  · rfl

/-- All that stays of a buffer is how it is set up and the rate of its clock. -/
theorem reset_congr (hsettings : b'.settings = b.settings) (hrate : b'.clock.rate = b.clock.rate) :
    b'.reset = b.reset := by
  have hclock : b'.clock.reset = b.clock.reset := by
    simp only [MediaClock.reset, hrate]
  have hconfig : b'.config = b.config := congrArg Prod.fst hsettings
  have hformats : b'.formats = b.formats := congrArg Prod.snd hsettings
  simp only [reset, hclock, hconfig, hformats]

theorem reset_read (b : JitterBuffer) (now : Nat) : (b.read now).2.reset = b.reset :=
  reset_congr (b.settings_read now) (congrArg MediaClock.rate (b.clock_read now))

theorem reset_drain (b : JitterBuffer) (now : Nat) : (b.drain now).2.reset = b.reset :=
  reset_congr (b.settings_readUpTo now _) (congrArg MediaClock.rate (b.clock_readUpTo _ now))

end JitterBuffer

/-! ## A reception that has not heard a source -/

namespace Reception

variable {r : Reception} {ssrc : UInt32} {now : Nat} {p : Packet} {arrivals : List Arrival}

/-- A packet of a source would be the first one. -/
structure Expects (ssrc : UInt32) (r : Reception) : Prop where
  other : r.source ≠ some ssrc
  blank : r.source = none → r.cleared = r
  tuned : r.jitter.Tuned

/-- What becomes of the packets of a source among what arrived, up to where the socket for media
broke. -/
def outcomes (ssrc : UInt32) (now : Nat) : List Arrival → Reception → List WriteOutcome
  | [], _ | .rtpFailure _ :: _, _ => []
  | .rtp p _ :: rest, r =>
    let later := outcomes ssrc now rest (r.take now p)
    if r.mode.receives && p.ssrc == ssrc
    then ((r.follow p.ssrc).jitter.writeMapped now p).1 :: later
    else later
  | .rtcp _ _ :: rest, r | .rtcpFailure _ :: rest, r => outcomes ssrc now rest r

theorem source_follow (r : Reception) (ssrc : UInt32) : (r.follow ssrc).source = some ssrc := by
  unfold follow
  repeat' split
  · assumption
  · rfl
  · rfl

theorem cleared_follow (r : Reception) (ssrc : UInt32) : (r.follow ssrc).cleared = r.cleared := by
  unfold follow
  repeat' split
  all_goals rfl

theorem tuned_follow (h : r.jitter.Tuned) (ssrc : UInt32) : (r.follow ssrc).jitter.Tuned := by
  unfold follow
  repeat' split
  all_goals exact h

theorem cleared_record (h : r.jitter.Tuned) (now : Nat) (p : Packet) :
    (r.record now p).cleared = r.cleared := by
  have hreset : (r.jitter.writeMapped now p).2.reset = r.jitter.reset :=
    JitterBuffer.reset_congr (r.jitter.settings_writeMapped now p) (h.rate_writeMapped now p)
  simp only [record, cleared, hreset]

namespace Expects

/-- A new source begins with nothing. -/
theorem follow (h : r.Expects ssrc) : r.cleared.follow ssrc = r.follow ssrc := by
  cases hsource : r.source with
  | none => rw [h.blank hsource]
  | some other =>
    have hother : some other ≠ some ssrc := hsource ▸ h.other
    simp only [Reception.follow, hsource, if_neg hother]
    rfl

/-- Its first packet is taken as by a session that has not received any other one. -/
theorem take_own (h : r.Expects ssrc) (hp : p.ssrc = ssrc) (hmode : r.mode.receives = true) :
    r.cleared.take now p = r.take now p := by
  have hcleared : r.cleared.mode.receives = true := hmode
  rw [take, take, if_pos hmode, if_pos hcleared, hp, h.follow]

/-- Nothing that matters is left of a packet of another source. -/
theorem take_other (h : r.Expects ssrc) (now : Nat) (hp : p.ssrc ≠ ssrc) :
    (r.take now p).Expects ssrc ∧ (r.take now p).cleared = r.cleared := by
  unfold take
  split
  · have htuned := tuned_follow h.tuned p.ssrc
    have hsource : ((r.follow p.ssrc).record now p).source = some p.ssrc :=
      r.source_follow p.ssrc
    refine ⟨⟨?_, fun hnone => ?_, ?_⟩, ?_⟩
    · rw [hsource]
      exact fun heq => hp (Option.some.inj heq)
    · rw [hsource] at hnone
      cases hnone
    · exact htuned.congr (JitterBuffer.settings_writeMapped _ now p) (htuned.rate_writeMapped now p)
    · rw [cleared_record htuned, cleared_follow]
  · exact ⟨h, rfl⟩

end Expects

/-! ## Calls -/

theorem cleared_adopt (r : Reception) (formats : FormatTable) :
    (r.adopt formats).cleared = r.cleared.adopt formats := by
  have hclock (c : MediaClock) (rate : UInt32) : (c.setRate rate).reset = c.reset.setRate rate := by
    unfold MediaClock.setRate
    split <;> rfl
  unfold adopt
  cases formats.media? with
  | none => rfl
  | some f =>
    simp only [cleared, JitterBuffer.reset, hclock]

/-- Of what the calls other than looking at what arrived do, nothing depends on packets that were
received before. -/
theorem cleared_after (r : Reception) (agreed : Option FormatTable) (inbox inbox' : List Arrival)
    {c : SessionCall} (hc : ∀ m now, c ≠ .poll m now) :
    (r.after agreed inbox c).cleared = r.cleared.after agreed inbox' c := by
  have hmode : r.cleared.mode = r.mode := rfl
  have hqueue : r.cleared.jitter.queue = [] := rfl
  cases c with
  | negotiate d m =>
    cases agreed with
    | none => rfl
    | some formats => exact r.cleared_adopt formats
  | updateMode mode =>
    have hreset (stops : Bool) : (if stops then r.jitter.reset else r.jitter).reset =
        if stops then r.jitter.reset.reset else r.jitter.reset := by
      cases stops <;> rfl
    simp only [after, cleared, hreset]
    rfl
  | poll m now => exact absurd rfl (hc m now)
  | readFrame now =>
    simp only [after, hmode, JitterBuffer.read_of_nil _ _ hqueue]
    split
    · simp only [cleared, JitterBuffer.reset_read]
    · rfl
  | drain now =>
    simp only [after, hmode, JitterBuffer.drain_of_nil _ _ hqueue]
    split
    · simp only [cleared, JitterBuffer.reset_drain]
    · rfl
  | openOn _ _ | configureRtcp _ _ | deliver _ | enableIce _ | enableDtls | transmit _ _ _ _ _ | close
  | reset _ => rfl

theorem tuned_adopt (r : Reception) {formats : FormatTable} (h : formats.HasOneMedia) :
    (r.adopt formats).jitter.Tuned := by
  intro payloadType f hf hmedia hpos
  have hfirst := h f (List.mem_of_find?_eq_some hf) hmedia
  simp only [adopt, hfirst, MediaClock.rate_setRate, if_pos hpos]

theorem tuned_after (h : r.jitter.Tuned) {agreed : Option FormatTable}
    (hagreed : ∀ formats ∈ agreed, formats.HasOneMedia) (inbox : List Arrival) {c : SessionCall}
    (hc : ∀ m now, c ≠ .poll m now) : (r.after agreed inbox c).jitter.Tuned := by
  cases c with
  | negotiate d m =>
    cases agreed with
    | none => exact h
    | some formats => exact r.tuned_adopt (hagreed formats rfl)
  | updateMode mode =>
    simp only [after]
    split <;> exact h
  | poll m now => exact absurd rfl (hc m now)
  | readFrame now =>
    simp only [after]
    split
    · exact h.congr (r.jitter.settings_read now) (congrArg MediaClock.rate (r.jitter.clock_read now))
    · exact h
  | drain now =>
    simp only [after]
    split
    · exact h.congr (r.jitter.settings_readUpTo now _)
        (congrArg MediaClock.rate (r.jitter.clock_readUpTo _ now))
    · exact h
  | openOn _ _ | configureRtcp _ _ | deliver _ | enableIce _ | enableDtls | transmit _ _ _ _ _ | close
  | reset _ => exact h

theorem source_after (r : Reception) (agreed : Option FormatTable) (inbox : List Arrival)
    {c : SessionCall} (hc : ∀ m now, c ≠ .poll m now) (hr : c.releases = false) :
    (r.after agreed inbox c).source = r.source := by
  cases c with
  | negotiate d m => cases agreed <;> rfl
  | poll m now => exact absurd rfl (hc m now)
  | readFrame now | drain now =>
    simp only [after]
    split <;> rfl
  | close | reset _ => cases hr
  | openOn _ _ | configureRtcp _ _ | deliver _ | enableIce _ | enableDtls | updateMode _
  | transmit _ _ _ _ _ => rfl

/-- A call other than looking at what arrived does not let a source be heard. -/
theorem Expects.after (h : r.Expects ssrc) {agreed : Option FormatTable}
    (hagreed : ∀ formats ∈ agreed, formats.HasOneMedia) (inbox : List Arrival) {c : SessionCall}
    (hc : ∀ m now, c ≠ .poll m now) : (r.after agreed inbox c).Expects ssrc := by
  have htuned := tuned_after h.tuned hagreed inbox hc
  cases hr : c.releases with
  | true =>
    cases c with
    | close | reset _ => exact ⟨nofun, fun _ => rfl, htuned⟩
    | _ => cases hr
  | false =>
    have hsource := r.source_after agreed inbox hc hr
    refine ⟨hsource ▸ h.other, fun hnone => ?_, htuned⟩
    rw [cleared_after r agreed inbox inbox hc, h.blank (hsource ▸ hnone)]

/-- Only what arrives comes into the inbox. -/
theorem inboxAfter_sublist (r : Reception) (inbox : List Arrival) (c : SessionCall) :
    (r.inboxAfter inbox c).Sublist (inbox ++ c.arrival?.toList) := by
  cases c with
  | deliver a =>
    simp only [inboxAfter]
    split
    · exact .refl _
    · exact List.sublist_append_left _ _
  | poll m now => exact (leftBehind_suffix inbox).sublist.trans (List.sublist_append_left _ _)
  | close | reset _ => exact List.nil_sublist _
  | _ => exact List.sublist_append_left _ _

theorem inboxAfter_withoutOthers {r r' : Reception} (hopen : r'.isOpen = r.isOpen) {c : SessionCall}
    (hc : ∀ a ∈ c.arrival?, a.isFromOther ssrc = false) (inbox : List Arrival) :
    r'.inboxAfter (withoutOthers ssrc inbox) c = withoutOthers ssrc (r.inboxAfter inbox c) := by
  cases c with
  | deliver a =>
    simp only [inboxAfter, hopen]
    split
    · rw [withoutOthers_concat, if_neg (by simp [hc a rfl])]
    · rfl
  | poll m now => exact leftBehind_withoutOthers ssrc inbox
  | _ => rfl

/-! ## Two receptions -/

/-- Two receptions, the second of which has not taken packets of other sources. Some arrivals are
still to be taken, and a source was heard as far as is said by what became of its packets. -/
inductive Beside (ssrc : UInt32) (r r' : Reception) (coming : List Arrival) :
    List WriteOutcome → Prop
  /-- As long as the source has not been heard. -/
  | before (expects : r.Expects ssrc) (cleared : r' = r.cleared) (first : OthersFirst ssrc coming) :
    Beside ssrc r r' coming []
  /-- When it has been heard, it is the only one. -/
  | since {heard : List WriteOutcome} (same : r' = r)
    (only : ∀ a ∈ coming, a.isFromOther ssrc = false) : Beside ssrc r r' coming heard

namespace Beside

variable {r' : Reception} {coming coming' : List Arrival} {heard : List WriteOutcome}

theorem cleared_eq (h : r.Beside ssrc r' coming heard) : r'.cleared = r.cleared := by
  cases h with
  | before expects cleared first => rw [cleared]; rfl
  | since same only => rw [same]

theorem same_of_heard (h : r.Beside ssrc r' coming heard) (hheard : heard ≠ []) : r' = r := by
  cases h with
  | before expects cleared first => exact absurd rfl hheard
  | since same only => exact same

theorem mono (h : r.Beside ssrc r' coming heard) (hsub : coming'.Sublist coming) :
    r.Beside ssrc r' coming' heard := by
  cases h with
  | before expects cleared first => exact .before expects cleared (first.sublist hsub)
  | since same only => exact .since same fun a ha => only a (hsub.subset ha)

/-- When the source has been heard, the two take the same. -/
theorem takeAll_since (heard : List WriteOutcome) (now : Nat)
    (only : ∀ a ∈ arrivals ++ coming, a.isFromOther ssrc = false) (r : Reception) :
    outcomes ssrc now (withoutOthers ssrc arrivals) r = outcomes ssrc now arrivals r ∧
      (r.takeAll now arrivals).Beside ssrc (r.takeAll now (withoutOthers ssrc arrivals))
        (leftBehind arrivals ++ coming) heard := by
  have hleft : (leftBehind arrivals ++ coming).Sublist (arrivals ++ coming) :=
    (leftBehind_suffix arrivals).sublist.append_right coming
  rw [withoutOthers_of_none fun a ha => only a (List.mem_append_left coming ha)]
  exact ⟨rfl, .since rfl fun a ha => only a (hleft.subset ha)⟩

/-- By induction on what arrived. -/
theorem takeAll_before (expects : r.Expects ssrc) (now : Nat)
    (first : OthersFirst ssrc (arrivals ++ coming)) :
    outcomes ssrc now (withoutOthers ssrc arrivals) r.cleared = outcomes ssrc now arrivals r ∧
      (r.takeAll now arrivals).Beside ssrc (r.cleared.takeAll now (withoutOthers ssrc arrivals))
        (leftBehind arrivals ++ coming) (outcomes ssrc now arrivals r) := by
  induction arrivals generalizing r with
  | nil => exact ⟨rfl, .before expects rfl first⟩
  | cons a rest ih =>
    obtain ⟨hbehind, hfirst⟩ := List.pairwise_cons.1 first
    cases a with
    | rtp p source =>
      by_cases hp : p.ssrc = ssrc
      · have hkept : withoutOthers ssrc (.rtp p source :: rest) =
            .rtp p source :: withoutOthers ssrc rest := by
          simp [withoutOthers, Arrival.isFromOther, hp]
        cases hmode : r.mode.receives with
        | true =>
          have hcleared : r.cleared.mode.receives = true := hmode
          have honly : ∀ a ∈ rest ++ coming, a.isFromOther ssrc = false :=
            fun a ha => hbehind a ha (by simp [Arrival.isFrom, hp])
          obtain ⟨houtcomes, hbeside⟩ :=
            takeAll_since (outcomes ssrc now (.rtp p source :: rest) r) now honly (r.take now p)
          rw [hkept]
          simp only [outcomes, Reception.takeAll, expects.take_own hp hmode, hmode, hcleared, hp,
            expects.follow, houtcomes] at hbeside ⊢
          exact ⟨trivial, hbeside⟩
        | false =>
          have hcleared : r.cleared.mode.receives = false := hmode
          have hrest := ih expects hfirst
          rw [hkept]
          simpa [outcomes, Reception.takeAll, leftBehind, take, hmode, hcleared] using hrest
      · have hdropped : withoutOthers ssrc (.rtp p source :: rest) = withoutOthers ssrc rest := by
          simp [withoutOthers, Arrival.isFromOther, hp]
        obtain ⟨hexpects, hcleared⟩ := expects.take_other now hp
        have hrest := ih hexpects hfirst
        rw [hcleared] at hrest
        rw [hdropped]
        simpa [outcomes, Reception.takeAll, leftBehind, hp] using hrest
    | rtcp _ _ | rtcpFailure _ => exact ih expects hfirst
    | rtpFailure _ => exact ⟨rfl, .before expects rfl hfirst⟩

theorem takeAll (h : r.Beside ssrc r' (arrivals ++ coming) heard) (now : Nat) :
    outcomes ssrc now (withoutOthers ssrc arrivals) r' = outcomes ssrc now arrivals r ∧
      (r.takeAll now arrivals).Beside ssrc (r'.takeAll now (withoutOthers ssrc arrivals))
        (leftBehind arrivals ++ coming) (heard ++ outcomes ssrc now arrivals r) := by
  cases h with
  | before expects cleared first =>
    subst cleared
    exact takeAll_before expects now first
  | since same only =>
    subst same
    exact takeAll_since _ now only r'

/-- A call that is not about what arrived. -/
theorem after (h : r.Beside ssrc r' coming heard) {agreed : Option FormatTable}
    (hagreed : ∀ formats ∈ agreed, formats.HasOneMedia) {c : SessionCall}
    (hc : ∀ m now, c ≠ .poll m now) (inbox inbox' : List Arrival) :
    (r.after agreed inbox c).Beside ssrc (r'.after agreed inbox' c) coming heard := by
  cases h with
  | before expects cleared first =>
    refine .before (expects.after hagreed inbox hc) ?_ first
    rw [cleared, ← cleared_after r agreed inbox inbox' hc]
  | since same only =>
    subst same
    refine .since ?_ only
    cases c with
    | poll m now => exact absurd rfl (hc m now)
    | _ => rfl

end Beside

end Reception

namespace MediaSession

variable {s t : MediaSession} {ssrc : UInt32} {calls : List SessionCall} {c : SessionCall}
  {coming : List Arrival} {outs : List WriteOutcome}

/-! ## What an onlooker hears of a source -/

/-- What becomes of the packets of a source among what arrived, up to where the socket for media
broke, while the session receives. -/
def heardIn (ssrc : UInt32) (now : Nat) :
    List Arrival → MediaSession → Metrics → List WriteOutcome
  | [], _, _ | .rtpFailure _ :: _, _, _ => []
  | .rtp p source :: rest, s, m =>
    let (s', m') := s.receivePacket m now p source
    let later := heardIn ssrc now rest s' m'
    if s.mode.receives && p.ssrc == ssrc
    then ((s.expecting p source).jitter.writeMapped now p).1 :: later
    else later
  | .rtcp _ _ :: rest, s, m => heardIn ssrc now rest { s with rtcpReceived := s.rtcpReceived + 1 } m
  | .rtcpFailure _ :: rest, s, m =>
    heardIn ssrc now rest { s with transport := s.transport.map fun t => { t with rtcp := none } } m

/-- What becomes of the packets of a source that a call looks at. -/
def heardBy (s : MediaSession) (ssrc : UInt32) : SessionCall → List WriteOutcome
  | .poll m now => heardIn ssrc now s.inbox s m
  | _ => []

/-- What becomes of the packets of a source in a run. -/
def heard (s : MediaSession) (ssrc : UInt32) : List SessionCall → List WriteOutcome
  | [] => []
  | c :: rest => s.heardBy ssrc c ++ (s.perform c).heard ssrc rest

/-- By induction on what arrived. -/
theorem heardIn_eq (ssrc : UInt32) (now : Nat) (arrivals : List Arrival) (s : MediaSession)
    (m : Metrics) : heardIn ssrc now arrivals s m = s.reception.outcomes ssrc now arrivals := by
  induction arrivals generalizing s m with
  | nil => rfl
  | cons a rest ih =>
    cases a with
    | rtp p source =>
      have hmode : s.reception.mode = s.mode := rfl
      have hexpecting : s.mode.receives = true →
          (s.expecting p source).jitter = (s.reception.follow p.ssrc).jitter := fun hreceives => by
        rw [← s.reception_latch source, ← reception_follow]
        simp only [expecting, if_pos hreceives]
        rfl
      simp only [heardIn, Reception.outcomes, ih, reception_receivePacket, hmode]
      cases hreceives : s.mode.receives with
      | true => simp only [hexpecting hreceives]
      | false => rfl
    | rtcp _ _ => exact ih _ m
    | rtpFailure _ => rfl
    | rtcpFailure _ =>
      exact (ih _ m).trans (congrArg (Reception.outcomes ssrc now rest) (s.reception_map_transport _))

theorem heardBy_poll (s : MediaSession) (ssrc : UInt32) (m : Metrics) (now : Nat) :
    s.heardBy ssrc (.poll m now) = s.reception.outcomes ssrc now s.inbox :=
  heardIn_eq ssrc now s.inbox s m

/-! ## Two sessions -/

/-- Formats are agreed on with one kind of media among them. -/
theorem hasOneMedia_of_agreement? {formats : FormatTable} (h : formats ∈ s.agreement? c) :
    formats.HasOneMedia := by
  cases c with
  | negotiate d m =>
    simp only [agreement?, negotiate] at h
    cases ht : s.terms d m with
    | error e => simp [ht, Except.toOption] at h
    | ok terms =>
      obtain ⟨agreed, rtp, rtcp⟩ := terms
      obtain rfl : agreed = formats := by simpa [ht, Except.toOption] using h
      obtain ⟨media, event, hagree⟩ :=
        Negotiator.select_ok (FormatTable.distinct_ofList _) (terms_ok ht).1
      intro f hf hmedia
      have honly : f = media := by
        have hmem : f ∈ agreed.toList.filter fun f => !f.isTelephoneEvent :=
          List.mem_filter.2 ⟨hf, by simp [hmedia]⟩
        rw [hagree.filter_media] at hmem
        exact List.mem_singleton.1 hmem
      rw [honly]
      simp [FormatTable.media?, hagree.formats, hagree.media_isMedia]
  | _ => cases h

/-- Two sessions, the second of which does not receive packets of other sources than one. -/
structure Accompanies (ssrc : UInt32) (coming : List Arrival) (outs : List WriteOutcome)
    (s t : MediaSession) : Prop where
  inbox : t.inbox = withoutOthers ssrc s.inbox
  reception : s.reception.Beside ssrc t.reception (s.inbox ++ coming) outs

namespace Accompanies

theorem make (seat : Seat) (config : SessionConfig) (numbering : Numbering)
    (h : OthersFirst ssrc coming) :
    Accompanies ssrc coming [] (make seat config numbering) (make seat config numbering) where
  inbox := rfl
  reception := .before ⟨nofun, fun _ => rfl, nofun⟩ rfl h

/-- A packet of another source arrives at the first session only. -/
theorem deliver_other {a : Arrival} (h : Accompanies ssrc (a :: coming) outs s t)
    (ha : a.isFromOther ssrc = true) : Accompanies ssrc coming outs (s.deliver a) t := by
  have hinbox := s.inbox_perform (.deliver a)
  have hreception : (s.deliver a).reception = s.reception := s.reception_map_transport _
  constructor
  · refine h.inbox.trans ?_
    show _ = withoutOthers ssrc (s.perform (.deliver a)).inbox
    rw [hinbox, Reception.inboxAfter]
    split
    · rw [withoutOthers_concat, if_pos ha, List.append_nil]
    · rfl
  · rw [hreception]
    refine h.reception.mono ?_
    have hsub : (s.deliver a).inbox.Sublist (s.inbox ++ [a]) :=
      hinbox ▸ s.reception.inboxAfter_sublist s.inbox (.deliver a)
    simpa using hsub.append_right coming

/-- What else is done is done with both. -/
theorem perform (h : Accompanies ssrc (c.arrival?.toList ++ coming) outs s t)
    (hc : ∀ a ∈ c.arrival?, a.isFromOther ssrc = false) :
    t.heardBy ssrc c = s.heardBy ssrc c ∧
      Accompanies ssrc coming (outs ++ s.heardBy ssrc c) (s.perform c) (t.perform c) := by
  have hsame := h.reception.cleared_eq
  have hinbox : (t.perform c).inbox = withoutOthers ssrc (s.perform c).inbox := by
    rw [inbox_perform, inbox_perform, h.inbox]
    exact Reception.inboxAfter_withoutOthers (congrArg Reception.isOpen hsame) hc s.inbox
  by_cases hpoll : ∃ m now, c = .poll m now
  · obtain ⟨m, now, rfl⟩ := hpoll
    obtain ⟨houtcomes, htaken⟩ := h.reception.takeAll now
    rw [heardBy_poll, heardBy_poll, h.inbox]
    refine ⟨houtcomes, hinbox, ?_⟩
    show (s.poll m now).2.1.reception.Beside ssrc (t.poll m now).2.1.reception
      ((s.poll m now).2.1.inbox ++ coming) _
    rw [reception_poll, reception_poll, inbox_poll, h.inbox]
    exact htaken
  · have hnot : ∀ m now, c ≠ .poll m now := fun m now heq => hpoll ⟨m, now, heq⟩
    have hsilent (s : MediaSession) : s.heardBy ssrc c = [] := by
      cases c with
      | poll m now => exact absurd rfl (hnot m now)
      | _ => rfl
    rw [hsilent, hsilent, List.append_nil]
    refine ⟨rfl, hinbox, ?_⟩
    rw [reception_perform, reception_perform, inbox_perform,
      agreement?_congr (congrArg Reception.setup hsame) (congrArg Reception.checks hsame)]
    refine (h.reception.after (fun _ => hasOneMedia_of_agreement?) hnot _ _).mono ?_
    rw [← List.append_assoc]
    exact (s.reception.inboxAfter_sublist s.inbox c).append_right coming

/-- By induction on the calls. -/
theorem run (h : Accompanies ssrc (calls.filterMap SessionCall.arrival? ++ coming) outs s t) :
    let rest := calls.filter fun c => !c.bringsOther ssrc
    t.heard ssrc rest = s.heard ssrc calls ∧
      Accompanies ssrc coming (outs ++ s.heard ssrc calls) (s.run calls) (t.run rest) := by
  induction calls generalizing s t outs with
  | nil =>
    rw [MediaSession.heard, List.append_nil]
    exact ⟨rfl, h⟩
  | cons c rest ih =>
    cases hother : c.bringsOther ssrc with
    | true =>
      rw [List.filter_cons_of_neg (by simp [hother])]
      cases c with
      | deliver a => exact ih (h.deliver_other hother)
      | _ => cases hother
    | false =>
      have hc : ∀ a ∈ c.arrival?, a.isFromOther ssrc = false := fun a ha => by
        rwa [SessionCall.bringsOther, Option.mem_def.1 ha] at hother
      have hcoming : (c :: rest).filterMap SessionCall.arrival? =
          c.arrival?.toList ++ rest.filterMap SessionCall.arrival? := by
        cases ha : c.arrival? <;> simp [ha]
      rw [hcoming, List.append_assoc] at h
      obtain ⟨hby, hafter⟩ := h.perform hc
      obtain ⟨hheard, hend⟩ := ih hafter
      rw [List.filter_cons_of_pos (by simp [hother])]
      refine ⟨?_, ?_⟩
      · rw [MediaSession.heard, MediaSession.heard, hby, hheard]
      · rw [MediaSession.heard, ← List.append_assoc]
        exact hend

end Accompanies

/-- A new source starts with nothing. Two new sessions of the same kind do the same, but only the first
one receives packets, none of which is of the source. Then they have the same mode and the same
formats, and the clocks of their jitter buffers have the same rate. Now packets of that source arrive
at both, and no others, and again the same is done with both. What becomes of the packets is the same
in both sessions; and as soon as one of them has been taken, both have the same jitter buffer, count
the same of what they receive, and play the same frames at any time. -/
theorem new_source_starts_afresh (seat : Seat) (config : SessionConfig) (numbering : Numbering)
    (ssrc : UInt32) (history later : List SessionCall)
    (hhistory : ∀ c ∈ history, ∀ p ∈ c.packet?, p.ssrc ≠ ssrc)
    (hlater : ∀ c ∈ later, ∀ p ∈ c.packet?, p.ssrc = ssrc) :
    let s := (make seat config numbering).run history
    let s' := (make seat config numbering).run (history.filter fun c => c.packet?.isNone)
    (s'.mode = s.mode ∧ s'.negotiated = s.negotiated ∧ s'.jitter.settings = s.jitter.settings ∧
      s'.jitter.clock.rate = s.jitter.clock.rate) ∧
    s'.heard ssrc later = s.heard ssrc later ∧
    (s.heard ssrc later ≠ [] →
      (s'.run later).jitter = (s.run later).jitter ∧
      (s'.run later).statistics.receiving = (s.run later).statistics.receiving ∧
      ∀ now, ((s'.run later).readFrame now).1 = ((s.run later).readFrame now).1 ∧
        ((s'.run later).drain now).1 = ((s.run later).drain now).1) := by
  intro s s'
  have hfirst := othersFirst_append hhistory hlater
  have hhistory' : (history.filter fun c => c.packet?.isNone) =
      history.filter fun c => !c.bringsOther ssrc :=
    List.filter_congr fun c hc => by
      rw [(bringsOther_of_other (hhistory c hc)).1, Option.not_isSome]
  obtain ⟨-, hbefore⟩ := (Accompanies.make seat config numbering hfirst).run
  rw [← hhistory'] at hbefore
  have hlater' : later.filter (fun c => !c.bringsOther ssrc) = later :=
    List.filter_eq_self.2 fun c hc => by simp [(bringsOther_of_own (hlater c hc)).1]
  rw [← List.append_nil (later.filterMap SessionCall.arrival?)] at hbefore
  obtain ⟨hheard, hafter⟩ := hbefore.run
  rw [hlater'] at hheard hafter
  have hcleared := hbefore.reception.cleared_eq
  refine ⟨⟨congrArg Reception.mode hcleared, congrArg Reception.negotiated hcleared,
    congrArg (fun r => r.jitter.settings) hcleared,
    congrArg (fun r => r.jitter.clock.rate) hcleared⟩, hheard, fun hsome => ?_⟩
  have hsame := hafter.reception.same_of_heard (List.append_ne_nil_of_right_ne_nil _ hsome)
  have hmode : (s'.run later).mode = (s.run later).mode := congrArg Reception.mode hsame
  have hjitter : (s'.run later).jitter = (s.run later).jitter := congrArg Reception.jitter hsame
  refine ⟨hjitter, congrArg Reception.statistics hsame, fun now => ?_⟩
  simp only [readFrame, drain, hmode, hjitter]
  constructor <;> split <;> rfl

/-- A session plays a packet of one source, has another one waiting, and drops a late one. -/
def overheardCalls : List SessionCall :=
  let offered : Sdp.MediaSection := { media := "audio", port := 4000, formats := ["0"] }
  let d : Sdp.Description :=
    { origin := .make "1" "127.0.0.1", sessionName := "-", connection := some (.make "127.0.0.1")
      media := [offered] }
  let packet (n : UInt16) : SessionCall :=
    .deliver (.rtp (.make 0 n (160 * n.toUInt32) 7 [1, 2] false) ⟨.loopback, 4000⟩)
  [.openOn ⟨.isolated, .loopback, []⟩ (.make 0 0), .negotiate d offered, .updateMode .recvOnly,
    packet 20000, packet 20001, .poll {} 7, .readFrame 70, packet 19990, .poll {} 71]

/-- Then two packets of another source arrive, far behind those of the first one. -/
def newcomerCalls : List SessionCall :=
  let packet (n : UInt16) : SessionCall :=
    .deliver (.rtp (.make 0 n (160 * n.toUInt32) 8 [3, 4] false) ⟨.loopback, 4002⟩)
  [packet 100, packet 101, .poll {} 80, .readFrame 140]

theorem new_source_starts_afresh_newcomer :
    let fresh := make ⟨1, .audio⟩ ⟨.default, Profile.audio, none⟩ default
    let s := fresh.run overheardCalls
    let s' := fresh.run (overheardCalls.filter fun c => c.packet?.isNone)
    (s.jitter.lastDelivered = some 20000 ∧ s.statistics.received = 3 ∧
      s'.jitter.lastDelivered = none ∧ s'.statistics.received = 0) ∧
    s.heard 8 newcomerCalls = [.accepted, .accepted] ∧
    (s'.run newcomerCalls).jitter = (s.run newcomerCalls).jitter ∧
    (s'.run newcomerCalls).statistics.receiving = (s.run newcomerCalls).statistics.receiving ∧
    ((s'.run newcomerCalls).readFrame 140).1 = ((s.run newcomerCalls).readFrame 140).1 ∧
    ((s.run newcomerCalls).readFrame 140).1.map Frame.sequence = some 101 := by
  intro fresh s s'
  obtain ⟨-, -, hsame⟩ :=
    new_source_starts_afresh ⟨1, .audio⟩ ⟨.default, Profile.audio, none⟩ default 8 overheardCalls
      newcomerCalls (by decide +kernel) (by decide +kernel)
  have hheard : s.heard 8 newcomerCalls = [.accepted, .accepted] := by decide +kernel
  obtain ⟨hjitter, hstatistics, hplayed⟩ := hsame (by rw [hheard]; exact List.cons_ne_nil _ _)
  exact ⟨by decide +kernel, hheard, hjitter, hstatistics, (hplayed 140).1, by decide +kernel⟩

end MediaSession

end MediaGateway
