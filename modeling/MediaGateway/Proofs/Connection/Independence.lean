import MediaGateway.Proofs.Connection.Answer
import MediaGateway.Proofs.Session.Likeness

/-!
# Answers after an own offer

A call may have made an offer of its own when it answers one. What that offer has set up stays:
sessions that were opened for it are open, and connectivity checks and protection that were set up for
a browser are in the answer. An offer that asks for all of this gets the answer that it gets from a
call without an own offer.
-/

namespace MediaGateway

namespace Sdp.Description

/-- An offer asks for the checks and the protection that an own offer, for a browser or not, has. -/
structure Covers (d : Description) (browser : Bool) : Prop where
  ice : browser = true → d.containsIce = true
  dtls : browser = true → d.containsDtls = true

/-- An offer has an open section for each session of a call. -/
def AsksFor (d : Description) (c : Call) : Prop :=
  ∀ k, (c.session? k).isSome = true → (d.sectionFor? k).isSome = true

/-- An answer has the checks and the protection that the offer asks for, and those that an own offer
for a browser has set up. -/
structure Secures (answer offer : Description) (browser : Bool) : Prop where
  ice : answer.containsIce = (browser || offer.containsIce)
  dtls : answer.containsDtls = (browser || offer.containsDtls)

end Sdp.Description

namespace Call

open Sdp.Description (isOpenSection)
open MediaSession (IsOfferOf)

variable {c c' c₀ c₀' : Call} {w w' : Surroundings} {ports ports' ports₀ ports₀' : PortRange}
  {browser : Bool} {d : Sdp.Description} {ms : List Sdp.MediaSection} {answered : List MediaType}
  {ls : List (Option Sdp.LocalMedia)}

/-- The sessions of two calls differ in their sockets and credentials only. -/
def Resembles (c c' : Call) : Prop :=
  ∀ k, Option.Rel MediaSession.Resembles (c.session? k) (c'.session? k)

/-- A call that has made an offer, and the same call without it, after they have answered the same
sections: the sessions for these are alike, and the others are still as the offer has left them. -/
structure Follows (browser : Bool) (answered : List MediaType) (c c₀ : Call) : Prop where
  setup : c.setup = c₀.setup
  seated : c₀.setup.IsSeated
  cname : c.exchange.cname = c₀.exchange.cname
  same : ∀ k ∈ answered, Option.Rel MediaSession.Resembles (c.session? k) (c₀.session? k)
  others : ∀ k, k ∉ answered →
    Option.Rel (fun s s₀ => s₀.IsBlank ∧ IsOfferOf browser s₀ s) (c.session? k) (c₀.session? k)

theorem none_iff_of_rel {α β : Type} {R : α → β → Prop} {x : Option α} {y : Option β}
    (h : Option.Rel R x y) : x = none ↔ y = none := by
  cases h <;> simp

theorem exists_of_rel {α β : Type} {R : α → β → Prop} {x : Option α} {y : Option β} {b : β}
    (h : Option.Rel R x y) (hy : y = some b) : ∃ a, x = some a ∧ R a b := by
  subst hy
  cases h with
  | some hab => exact ⟨_, rfl, hab⟩

theorem map_eq_of_rel {α β γ : Type} {R : α → β → Prop} {x : Option α} {y : Option β} {f : α → γ}
    {g : β → γ} (h : Option.Rel R x y) (hfg : ∀ a b, R a b → f a = g b) : x.map f = y.map g := by
  cases h with
  | none => rfl
  | some hab => exact congrArg some (hfg _ _ hab)

/-- Which sessions there are depends on the setup only. -/
theorem isSome_session?_of_setup (h : c.setup = c'.setup) (k : MediaType) :
    (c.session? k).isSome = (c'.session? k).isSome := by
  cases k with
  | audio => rfl
  | video =>
    have hvideo : c.video.map MediaSession.setup = c'.video.map MediaSession.setup :=
      congrArg CallSetup.video h
    show c.video.isSome = c'.video.isSome
    simpa using congrArg Option.isSome hvideo
  | application => rfl

/-! ## Making the offer -/

/-- A call without a trace of an exchange that has made an offer. -/
theorem follows_of_makeOffer {offer : Sdp.Description} (h : c₀.setup.IsSeated)
    (hblank : ∀ s ∈ c₀.sessions, s.IsBlank)
    (he : c₀.makeOffer w ports browser = (.ok offer, c, ports')) : c.Follows browser [] c₀ := by
  have hsetup := setup_makeOffer h w ports browser
  rw [he] at hsetup
  rw [makeOffer_eq] at he
  split at he
  · simp at he
  · rename_i ls c₁ ports₁ ho
    simp only [Prod.mk.injEq, Except.ok.injEq] at he
    obtain ⟨-, rfl, -⟩ := he
    have hx := exchange_offerSessions (w := w) browser c₀.sessions c₀.calling ports
    rw [ho] at hx
    have hcname : c₁.exchange.cname = c₀.exchange.cname := by
      simp only at hx
      rw [hx]
      rfl
    refine ⟨hsetup, h, hcname, by simp, fun k _ => ?_⟩
    have hheld : ∀ s ∈ c₀.sessions, c₀.calling.Holds s := fun s hs =>
      holds_of_mem (c := c₀.calling) h hs
    rcases session?_offerSessions (P := IsOfferOf browser) hheld
      (fun s hs => MediaSession.isOfferOf_of_prepareOffer (hblank s hs)) ho k with
      ⟨s, hs, rfl, t, ht, hoffer⟩ | ⟨hsame, hne⟩
    · have hk := session?_of_mem h hs
      have ht' : session? { c₁ with exchange := { c₁.exchange with
          localDescription := some (c₁.builder.build w.descriptionId true c₁.exchange.cname ls)
          remoteDescription := none } } s.media = some t := ht
      rw [ht', hk]
      exact .some ⟨hblank s hs, hoffer⟩
    · have hnone : c₀.session? k = none := by
        by_contra hsome
        obtain ⟨s, hs⟩ := Option.ne_none_iff_exists'.1 hsome
        exact hne s (mem_of_session? hs) (media_of_session? h hs)
      have hk : session? { c₁ with exchange := { c₁.exchange with
          localDescription := some (c₁.builder.build w.descriptionId true c₁.exchange.cname ls)
          remoteDescription := none } } k = none := hsame.trans hnone
      rw [hk, hnone]
      exact .none

/-! ## Going through the sections twice -/

namespace Follows

/-- Calls without a session for a medium need not answer for it. -/
theorem skip (h : c.Follows browser answered c₀) {k : MediaType} (hk : k ∉ answered)
    (hs : c.session? k = none) : c.Follows browser (k :: answered) c₀ := by
  have hs₀ : c₀.session? k = none := (none_iff_of_rel (h.others k hk)).1 hs
  refine ⟨h.setup, h.seated, h.cname, fun k' hk' => ?_, fun k' hk' => ?_⟩
  · rcases List.mem_cons.1 hk' with rfl | hk'
    · rw [hs, hs₀]
      exact .none
    · exact h.same k' hk'
  · exact h.others k' fun hin => hk' (List.mem_cons_of_mem _ hin)

/-- Calls whose sessions for a medium are alike have answered for it. -/
theorem withSession (h : c.Follows browser answered c₀) {k : MediaType} {s t s₀ t₀ : MediaSession}
    (hs : c.session? k = some s) (hs₀ : c₀.session? k = some s₀) (ht : t.setup = s.setup)
    (ht₀ : t₀.setup = s₀.setup) (hsame : t.Resembles t₀) :
    (c.withSession t).Follows browser (k :: answered) (c₀.withSession t₀) := by
  have hheld := holds_of_session? (h.setup ▸ h.seated) hs ht
  have hheld₀ := holds_of_session? h.seated hs₀ ht₀
  have hk : t.media = k := media_of_setup ht (media_of_session? (h.setup ▸ h.seated) hs)
  have hk₀ : t₀.media = k := media_of_setup ht₀ (media_of_session? h.seated hs₀)
  have hsetup := setup_withSession hheld
  have hsetup₀ := setup_withSession hheld₀
  refine ⟨hsetup.trans (h.setup.trans hsetup₀.symm), hsetup₀ ▸ h.seated, ?_, fun k' hk' => ?_,
    fun k' hk' => ?_⟩
  · rw [exchange_withSession, exchange_withSession, h.cname]
  · rw [session?_withSession hheld, session?_withSession hheld₀, hk, hk₀]
    by_cases heq : k' = k
    · rw [if_pos heq, if_pos heq]
      exact .some hsame
    · rw [if_neg heq, if_neg heq]
      exact h.same k' ((List.mem_cons.1 hk').resolve_left heq)
  · obtain ⟨hne, hnot⟩ := not_or.1 (mt List.mem_cons.2 hk')
    rw [session?_withSession hheld, session?_withSession hheld₀, hk, hk₀, if_neg hne, if_neg hne]
    exact h.others k' hnot

/-- Once all sessions have answered, the calls are alike. -/
theorem resembles (h : c.Follows browser answered c₀)
    (hall : ∀ k, (c₀.session? k).isSome = true → k ∈ answered) : c.Resembles c₀ := by
  intro k
  by_cases hk : k ∈ answered
  · exact h.same k hk
  · have hnone : c₀.session? k = none := by
      rw [← Option.not_isSome_iff_eq_none]
      exact fun hsome => hk (hall k hsome)
    rw [(none_iff_of_rel (h.others k hk)).2 hnone, hnone]
    exact .none

/-- Closed, the calls are alike whatever they have answered. -/
theorem resembles_close (h : c.Follows browser answered c₀) : c.close.Resembles c₀.close := by
  intro k
  have hclose (c : Call) : c.close.session? k = (c.session? k).map MediaSession.close := by
    cases k <;> rfl
  have hrel : (c.session? k).map MediaSession.close = (c₀.session? k).map MediaSession.close := by
    by_cases hk : k ∈ answered
    · exact map_eq_of_rel (h.same k hk) fun _ _ hsame => hsame.close_eq
    · exact map_eq_of_rel (h.others k hk) fun _ _ hoffer => hoffer.2.close_eq
  rw [hclose, hclose, hrel]
  cases (c₀.session? k).map MediaSession.close with
  | none => exact .none
  | some s => exact .some (.refl s)

end Follows

/-- Going through sections comes to like ends for a call that has made an offer before and for the
one that has not. If it comes to the end, all media of these sections have been answered for. -/
structure LikeEnds (browser : Bool) (answered : List MediaType) (ms : List Sdp.MediaSection)
    (r r₀ : Except SessionError (List (Option Sdp.LocalMedia)) × Call × PortRange) : Prop where
  result : SameResult (List.Forall₂ (Option.Rel Sdp.LocalMedia.Resembles)) r.1 r₀.1
  calls : ∃ answered', r.2.1.Follows browser answered' r₀.2.1 ∧
    ∀ ls, r.1 = .ok ls → ∀ k, k ∈ answered ∨ ms.any (isOpenSection k) = true → k ∈ answered'

/-- What comes of a section is added to what comes of those behind it. -/
theorem LikeEnds.cons {answered' : List MediaType} {m : Sdp.MediaSection}
    {r r₀ : Except SessionError (List (Option Sdp.LocalMedia)) × Call × PortRange}
    {l l₀ : Option Sdp.LocalMedia} (h : LikeEnds browser answered' ms r r₀)
    (hl : Option.Rel Sdp.LocalMedia.Resembles l l₀)
    (hmore : ∀ k, k ∈ answered ∨ isOpenSection k m = true → k ∈ answered') :
    LikeEnds browser answered (m :: ms) (r.1.map (l :: ·), r.2) (r₀.1.map (l₀ :: ·), r₀.2) := by
  obtain ⟨r, c, ports⟩ := r
  obtain ⟨r₀, c₀, ports₀⟩ := r₀
  obtain ⟨hresult, answered'', hfollows, hdone⟩ := h
  simp only at hresult hfollows hdone ⊢
  cases hresult with
  | error e => exact ⟨.error e, answered'', hfollows, by simp [Except.map]⟩
  | @ok ls ls₀ hls =>
    refine ⟨.ok (.cons hl hls), answered'', hfollows, fun _ _ k hk => hdone ls rfl k ?_⟩
    rw [List.any_cons, Bool.or_eq_true, ← or_assoc] at hk
    exact hk.imp_left (hmore k)

/-- A session that answers a section has bound its sockets if all of them were bound in the end. -/
theorem bindsAll_prepareAnswer {m : Sdp.MediaSection} {s : MediaSession}
    (hs : (answeredMedium? answered m).bind c.session? = some s)
    (hb : BindsAll (answerSections w d (m :: ms) answered c ports).1) :
    BindsAll (s.prepareAnswer (c.around w) ports d m).1 := by
  intro e he
  rw [Call.answerSections, hs] at hb
  rcases hp : s.prepareAnswer (c.around w) ports d m with ⟨r, s', ports'⟩
  rw [hp] at he
  obtain rfl : r = .error e := he
  simp only [hp] at hb
  split at hb
  · rename_i hrefused
    cases e <;> simp_all [SessionError.isBind, SessionError.isNegotiation]
  · exact hb e rfl

/-- Answering sections takes the calls to like ends, by induction on the sections. -/
theorem Follows.answerSections (h : c.Follows browser answered c₀) (hd : d.Covers browser)
    (hb : BindsAll (answerSections w d ms answered c ports).1)
    (hb₀ : BindsAll (answerSections w' d ms answered c₀ ports').1) :
    LikeEnds browser answered ms (answerSections w d ms answered c ports)
      (answerSections w' d ms answered c₀ ports') := by
  induction ms generalizing answered c c₀ ports ports' with
  | nil => exact ⟨.ok .nil, answered, h, by simp⟩
  | cons m rest ih =>
    have hprepare := fun s hs => bindsAll_prepareAnswer (s := s) hs hb
    have hprepare₀ := fun s hs => bindsAll_prepareAnswer (s := s) hs hb₀
    rw [Call.answerSections] at hb hb₀
    rw [Call.answerSections, Call.answerSections]
    have hmore (k : MediaType) (hk : k ∈ answered ∨ isOpenSection k m = true) :
        k ∈ (answeredMedium? answered m).toList ++ answered := by
      rw [List.mem_append, Option.mem_toList, answeredMedium?_eq_some]
      tauto
    cases hk : answeredMedium? answered m with
    | none =>
      simp only [hk, Option.bind_none, Option.toList_none, List.nil_append] at hb hb₀ hmore ⊢
      exact (ih h hb.of_map hb₀.of_map).cons .none hmore
    | some k =>
      obtain ⟨-, hnot⟩ := answeredMedium?_eq_some.1 hk
      simp only [hk, Option.bind_some, Option.toList_some, List.singleton_append] at hb hb₀ hmore ⊢
      have hrel := h.others k hnot
      cases hs : c.session? k with
      | none =>
        -- Neither call has a session for the medium, so both go on as they are.
        have hs₀ := (none_iff_of_rel hrel).1 hs
        simp only [hs, hs₀] at hb hb₀ ⊢
        exact (ih (h.skip hnot hs) hb.of_map hb₀.of_map).cons .none hmore
      | some s =>
        obtain ⟨s₀, hs₀⟩ : ∃ s₀, c₀.session? k = some s₀ := by
          rw [← Option.ne_none_iff_exists', ne_eq, ← none_iff_of_rel hrel, hs]
          simp
        obtain ⟨s', hs', hblank, hoffer⟩ := exists_of_rel hrel hs₀
        obtain rfl : s = s' := Option.some.inj (hs.symm.trans hs')
        simp only [hs, hs₀] at hb hb₀ ⊢
        obtain ⟨hresult, hsame⟩ := hoffer.prepareAnswer hblank hd.ice hd.dtls
          (hprepare s (by rw [hk, Option.bind_some, hs]))
          (hprepare₀ s₀ (by rw [hk, Option.bind_some, hs₀]))
        rcases hp : s.prepareAnswer (c.around w) ports d m with ⟨r, t, ports₁⟩
        rcases hp₀ : s₀.prepareAnswer (c₀.around w') ports' d m with ⟨r₀, t₀, ports₁'⟩
        have hset := setup_of_prepareAnswer hp
        have hset₀ := setup_of_prepareAnswer hp₀
        simp only [hp, hp₀] at hb hb₀ hresult hsame ⊢
        cases hresult with
        | ok hl =>
          have hnext := h.withSession hs hs₀ hset hset₀ hsame
          exact (ih hnext hb.of_map hb₀.of_map).cons (.some hl) hmore
        | error e =>
          have hmedia : t.media = t₀.media := media_of_setup hsame.setup rfl
          simp only [hmedia] at hb hb₀ ⊢
          split
          · rename_i hrefuse
            -- Both refuse the section, and what their sessions differed in goes when they close.
            rw [if_pos hrefuse] at hb hb₀
            have hclosed : t.close.Resembles t₀.close := by
              rw [hsame.close_eq]
              exact .refl _
            have hnext : (c.withSession t.close).Follows browser (k :: answered)
                (c₀.withSession t₀.close) := h.withSession hs hs₀ hset hset₀ hclosed
            exact (ih hnext hb.of_map hb₀.of_map).cons .none hmore
          · exact ⟨.error e, k :: answered, h.withSession hs hs₀ hset hset₀ hsame, by simp⟩

/-! ## The answer -/

/-- Answers are made alike of contributions that are alike. -/
theorem Follows.alignedAnswer {locals locals' : List (Option Sdp.LocalMedia)}
    (h : c.Follows browser answered c₀)
    (hl : List.Forall₂ (Option.Rel Sdp.LocalMedia.Resembles) locals locals')
    (w w' : Surroundings) (d : Sdp.Description) :
    (c.alignedAnswer w d locals).Resembles (c₀.alignedAnswer w' d locals') := by
  have hbuilder : c.builder = c₀.builder := congrArg CallSetup.builder h.setup
  constructor
  · have hlite : (locals.filterMap id).any (fun l => l.ice.isSome) =
        (locals'.filterMap id).any (fun l => l.ice.isSome) := by
      clear h hbuilder
      induction hl with
      | nil => rfl
      | cons hl _ ih =>
        cases hl with
        | none => exact ih
        | some hl => simpa [hl.ice] using congrArg _ ih
    simp only [Call.alignedAnswer, Sdp.Builder.build, hbuilder, hlite]
    rfl
  · simp only [Call.alignedAnswer, hbuilder, h.cname]
    generalize d.media = ms
    induction hl generalizing ms with
    | nil => cases ms <;> exact .nil
    | cons hl _ ih =>
      cases ms with
      | nil => exact .nil
      | cons m ms =>
        refine .cons ?_ (ih ms)
        cases hl with
        | none => exact .refl _
        | some hl => exact Sdp.resembles_mediaSection hl _ _ _

theorem bindsAll_answerSections {text : String} {m : Sdp.MediaSection}
    (hr : readRemote text = .ok (d, m)) (hb : BindsAll (c.answerOffer w ports text).1) :
    BindsAll (answerSections w d d.media [] c.called ports).1 := by
  intro e he
  rw [answerOffer_eq, hr] at hb
  rcases hs : answerSections w d d.media [] c.called ports with ⟨r, c', ports'⟩
  rw [hs] at he
  obtain rfl : r = .error e := he
  simp only [hs] at hb
  exact hb e rfl

/-- Answering an offer takes the calls to like ends, if the offer asks for the checks and the
protection that the own offer has set up: either both fail for the same reason, or the answers are
alike, and so are the sessions that the offer asks for. -/
theorem Follows.answerOffer {text : String} (h : c.Follows browser [] c₀)
    (hd : ∀ d, Sdp.Description.ofText text = .ok d → d.Covers browser)
    (hb : BindsAll (c.answerOffer w ports text).1)
    (hb₀ : BindsAll (c₀.answerOffer w' ports' text).1) :
    let r := c.answerOffer w ports text
    let r₀ := c₀.answerOffer w' ports' text
    SameResult Sdp.Description.Resembles r.1 r₀.1 ∧ r.2.1.close.Resembles r₀.2.1.close ∧
      ∀ d answer, Sdp.Description.ofText text = .ok d → r.1 = .ok answer → d.AsksFor c₀ →
        r.2.1.Resembles r₀.2.1 := by
  rcases hr : readRemote text with e | ⟨d, m⟩
  · simp only [answerOffer_eq, hr]
    exact ⟨.error e, h.resembles_close, by simp⟩
  · obtain ⟨hread, -⟩ := readRemote_ok hr
    have hcalled : c.called.Follows browser [] c₀.called :=
      ⟨h.setup, h.seated, h.cname, h.same, h.others⟩
    obtain ⟨hresult, answered, hfollows, hdone⟩ := hcalled.answerSections (hd d hread)
      (bindsAll_answerSections hr hb) (bindsAll_answerSections hr hb₀)
    have hset₀ := setup_answerSections (c := c₀.called) h.seated w' d d.media [] ports'
    simp only [answerOffer_eq, hr]
    rcases hs : Call.answerSections w d d.media [] c.called ports with ⟨r, c₁, ports₁⟩
    rcases hs₀ : Call.answerSections w' d d.media [] c₀.called ports' with ⟨r₀, c₁₀, ports₁'⟩
    simp only [hs, hs₀] at hresult hfollows hdone hset₀ ⊢
    cases hresult with
    | error e => exact ⟨.error e, hfollows.resembles_close, by simp⟩
    | @ok ls ls₀ hls =>
      refine ⟨.ok (hfollows.alignedAnswer hls w w' d), hfollows.resembles_close, ?_⟩
      intro d' answer hread' _ hasks
      obtain rfl : d = d' := Except.ok.inj (hread.symm.trans hread')
      refine hfollows.resembles fun k hk => hdone ls rfl k (.inr ?_)
      have hsome := hasks k ((isSome_session?_of_setup hset₀ k).symm.trans hk)
      rw [List.any_eq_true]
      exact List.find?_isSome.1 hsome

/-! ## Checks and protection in the answer -/

/-- The sessions that have not answered yet take part in checks and are protected as an own offer,
for a browser or not, has left them. -/
def IsSecured (browser : Bool) (answered : List MediaType) (c : Call) : Prop :=
  ∀ k, k ∉ answered → ∀ s ∈ c.session? k,
    s.ice.isSome = browser ∧ s.dtls = browser ∧ (s.dtls = true → s.fingerprint.isSome = true)

theorem isSecured_of_isBlank (h : ∀ s ∈ c.sessions, s.IsBlank) : c.IsSecured false [] := by
  intro k _ s hs
  have hblank := h s (mem_of_session? hs)
  exact ⟨by rw [hblank.ice]; rfl, hblank.dtls, by simp [hblank.dtls]⟩

theorem Follows.isSecured (h : c.Follows browser [] c₀) : c.IsSecured browser [] := by
  intro k hk s hs
  have hrel := h.others k hk
  cases hs₀ : c₀.session? k with
  | none => simp [(none_iff_of_rel hrel).2 hs₀] at hs
  | some s₀ =>
    obtain ⟨s', hs', -, hoffer⟩ := exists_of_rel hrel hs₀
    obtain rfl : s = s' := Option.some.inj (Eq.trans hs.symm hs')
    have hfingerprint : s.fingerprint = s₀.fingerprint :=
      congrArg SessionSetup.fingerprint hoffer.setup
    refine ⟨hoffer.ice, hoffer.dtls, fun hdtls => ?_⟩
    rw [hfingerprint]
    exact hoffer.certificate (hoffer.dtls.symm.trans hdtls)

theorem IsSecured.withSession {m : Sdp.MediaSection} {s t : MediaSession}
    (h : c.IsSecured browser answered) (hc : c.Holds t) (hm : t.media = s.media)
    (hs : answeredMedium? answered m = some s.media) :
    (c.withSession t).IsSecured browser ((answeredMedium? answered m).toList ++ answered) := by
  intro k hk u hu
  rw [hs, Option.toList_some, List.singleton_append, List.mem_cons, not_or] at hk
  rw [session?_withSession hc, hm, if_neg hk.1] at hu
  exact h k hk.2 u hu

/-- All contributions to an answer take part in checks and are protected alike, by induction on the
sections. -/
theorem Answers.secured (ha : Answers w d ms answered c ports ls c' ports')
    (h : c.setup.IsSeated) (hsecured : c.IsSecured browser answered) :
    ∀ l, some l ∈ ls → l.ice.isSome = (browser || d.containsIce) ∧
      l.dtls.isSome = (browser || d.containsDtls) := by
  induction ha with
  | nil => simp
  | @skip m rest answered c ports ls c' ports' hs _ ih =>
    have hnext : c.IsSecured browser ((answeredMedium? answered m).toList ++ answered) :=
      fun k hk => hsecured k fun hin => hk (List.mem_append_right _ hin)
    intro l hl
    exact ih h hnext l (by simpa using hl)
  | @accept m rest answered c ports ls c' ports' s l s' ports₁ hs hp _ ih =>
    obtain ⟨hk, hks⟩ := answered_of_bind h hs
    have hset := setup_of_prepareAnswer hp
    have hheld := holds_of_session? h hks hset
    obtain ⟨hice, hdtls, hcertificate⟩ :=
      hsecured s.media (answeredMedium?_eq_some.1 hk).2 s hks
    have hl := MediaSession.secured_of_prepareAnswer hcertificate hp
    rw [hice, hdtls] at hl
    intro l' hl'
    rcases List.mem_cons.1 hl' with hl' | hl'
    · rwa [Option.some.inj hl']
    · exact ih (setup_withSession hheld ▸ h)
        (hsecured.withSession hheld (MediaSession.media_eq_of_setup hset) hk) l' hl'
  | @refuse m rest answered c ports ls c' ports' s e s' ports₁ hs hp _ _ _ ih =>
    obtain ⟨hk, hks⟩ := answered_of_bind h hs
    have hset : s'.close.setup = s.setup := (setup_of_prepareAnswer hp :)
    have hheld := holds_of_session? h hks hset
    intro l hl
    exact ih (setup_withSession hheld ▸ h)
      (hsecured.withSession hheld (MediaSession.media_eq_of_setup hset) hk) l (by simpa using hl)

/-- A section of an answer has a property of what was contributed to it, where refusals do not have
it. -/
theorem any_answerSection (b : Sdp.Builder) (cname : String) {p : Sdp.MediaSection → Bool}
    {q : Sdp.LocalMedia → Bool} (hp : ∀ l, p (b.mediaSection false cname l) = q l)
    (hrejection : ∀ m, p (Sdp.Builder.rejection m) = false) (hlength : ls.length = ms.length) :
    (ms.zipWith (answerSection b cname) ls).any p = (ls.filterMap id).any q := by
  induction ms generalizing ls with
  | nil =>
    obtain rfl := List.length_eq_zero_iff.1 hlength
    rfl
  | cons m ms ih =>
    cases ls with
    | nil => simp at hlength
    | cons l? ls =>
      have hrest := ih (Nat.succ.inj hlength)
      cases l? with
      | none => simpa [answerSection, hrejection] using hrest
      | some l => simpa [answerSection, hp] using congrArg _ hrest

/-- An answer has the checks and the protection that the offer asks for or that the call had before,
and no others. -/
theorem secures_of_answerOffer {text : String} {answer : Sdp.Description} (h : c.setup.IsSeated)
    (hsecured : c.IsSecured browser [])
    (hread : Sdp.Description.ofText text = .ok d)
    (he : c.answerOffer w ports text = (.ok answer, c', ports')) : answer.Secures d browser := by
  obtain ⟨d', m₀, ls, c₁, hd, hm₀, hsections, rfl, -⟩ := exists_answerSections_of_ok he
  obtain rfl : d = d' := Except.ok.inj (hread.symm.trans hd)
  have ha := answers_of_ok hsections
  have hall := ha.secured (c := c.called) h hsecured
  obtain ⟨i, hi⟩ := Sdp.Description.exists_isFirst hm₀
  obtain ⟨l, hl⟩ := ha.exists_contribution (c := c.called) h hi
  -- There is a contribution, and all of them agree about checks and protection.
  have hany {q : Sdp.LocalMedia → Bool} {v : Bool} (hq : ∀ l, some l ∈ ls → q l = v) :
      (ls.filterMap id).any q = v := by
    have hmem (l : Sdp.LocalMedia) : l ∈ ls.filterMap id ↔ some l ∈ ls := by simp
    cases v with
    | true => exact List.any_eq_true.2 ⟨l, (hmem l).2 hl, hq l hl⟩
    | false => exact List.any_eq_false.2 fun l hl => by simp [hq l ((hmem l).1 hl)]
  have hice := hany fun l hl => (hall l hl).1
  have hdtls := hany fun l hl => (hall l hl).2
  have hsection (l : Sdp.LocalMedia) :
      (c₁.builder.mediaSection false c₁.exchange.cname l).containsIce = l.ice.isSome ∧
        (c₁.builder.mediaSection false c₁.exchange.cname l).fingerprint = l.dtls := by
    rw [Sdp.Builder.mediaSection_eq]
    refine ⟨?_, rfl⟩
    cases hl : l.ice <;> simp [Sdp.MediaSection.containsIce, Sdp.Builder.frameSection, hl]
  have hsectionsIce := any_answerSection c₁.builder c₁.exchange.cname
    (fun l => (hsection l).1) (fun _ => rfl) ha.length_eq
  have hsectionsDtls := any_answerSection c₁.builder c₁.exchange.cname
    (p := fun m => m.fingerprint.isSome) (fun l => congrArg Option.isSome (hsection l).2)
    (fun _ => rfl) ha.length_eq
  have hlite : (c₁.alignedAnswer w d ls).iceLite =
      (ls.filterMap id).any fun l => l.ice.isSome := rfl
  have hnone : (c₁.alignedAnswer w d ls).ice = none ∧
      (c₁.alignedAnswer w d ls).fingerprint = none := ⟨rfl, rfl⟩
  constructor
  · rw [Sdp.Description.containsIce, hlite, hnone.1, Option.isSome_none, Bool.or_false]
    simp only [alignedAnswer, hsectionsIce, hice, Bool.or_self]
  · rw [Sdp.Description.containsDtls, hnone.2, Option.isSome_none, Bool.false_or]
    simp only [alignedAnswer, hsectionsDtls, hdtls]

/-! ## What is left alone -/

/-- A session that answers a section stands for no medium that the section is not for. -/
theorem session?_withSession_of_closed (h : c.setup.IsSeated) {m : Sdp.MediaSection}
    {s t : MediaSession} {k : MediaType} (hs : (answeredMedium? answered m).bind c.session? = some s)
    (ht : t.setup = s.setup) (hk : isOpenSection k m = false) :
    (c.withSession t).setup = c.setup ∧ (c.withSession t).session? k = c.session? k := by
  obtain ⟨hmedium, hks⟩ := answered_of_bind h hs
  have hheld := holds_of_session? h hks ht
  refine ⟨setup_withSession hheld, ?_⟩
  rw [session?_withSession hheld, media_of_setup ht rfl, if_neg]
  rintro rfl
  simp [(answeredMedium?_eq_some.1 hmedium).1] at hk

/-- A session that no section asks for stays as it was. -/
theorem Answers.session?_eq {k : MediaType} (ha : Answers w d ms answered c ports ls c' ports')
    (h : c.setup.IsSeated) (hk : ∀ m ∈ ms, isOpenSection k m = false) :
    c'.session? k = c.session? k := by
  induction ha with
  | nil => rfl
  | skip _ _ ih => exact ih h (List.forall_mem_cons.1 hk).2
  | accept hs hp _ ih =>
    obtain ⟨hkm, hkrest⟩ := List.forall_mem_cons.1 hk
    obtain ⟨hset, hsame⟩ := session?_withSession_of_closed h hs (setup_of_prepareAnswer hp) hkm
    rw [ih (hset ▸ h) hkrest, hsame]
  | refuse hs hp _ _ _ ih =>
    obtain ⟨hkm, hkrest⟩ := List.forall_mem_cons.1 hk
    have hclose := (MediaSession.setup_close _).trans (setup_of_prepareAnswer hp)
    obtain ⟨hset, hsame⟩ := session?_withSession_of_closed h hs hclose hkm
    rw [ih (hset ▸ h) hkrest, hsame]

theorem session?_answerOffer {text : String} {answer : Sdp.Description} {k : MediaType}
    (h : c.setup.IsSeated) (hread : Sdp.Description.ofText text = .ok d)
    (he : c.answerOffer w ports text = (.ok answer, c', ports')) (hk : d.sectionFor? k = none) :
    c'.session? k = c.session? k := by
  obtain ⟨d', m₀, ls, c₁, hd, -, hsections, -, rfl⟩ := exists_answerSections_of_ok he
  obtain rfl : d = d' := Except.ok.inj (hread.symm.trans hd)
  refine (answers_of_ok hsections).session?_eq (c := c.called) h fun m hm => ?_
  simpa using List.find?_eq_none.1 hk m hm

/-- A call that has made an offer and one that has not give answers that are alike only if the offer
asks for the checks and the protection of the own one; their sessions are alike only if it asks for
all of them. -/
theorem Follows.covers_of_answerOffer {text : String} {answer answer₀ : Sdp.Description}
    (h : c.Follows browser [] c₀) (hblank : ∀ s ∈ c₀.sessions, s.IsBlank)
    (hread : Sdp.Description.ofText text = .ok d)
    (he : c.answerOffer w ports text = (.ok answer, c', ports'))
    (he₀ : c₀.answerOffer w' ports₀ text = (.ok answer₀, c₀', ports₀')) :
    (answer.Resembles answer₀ → d.Covers browser) ∧ (c'.Resembles c₀' → d.AsksFor c₀) := by
  have hseated : c.setup.IsSeated := h.setup ▸ h.seated
  have hsecures := secures_of_answerOffer hseated h.isSecured hread he
  have hsecures₀ := secures_of_answerOffer h.seated (isSecured_of_isBlank hblank) hread he₀
  refine ⟨fun hsame => ⟨?_, ?_⟩, fun hsame k hk => ?_⟩
  · rintro rfl
    have hice := hsame.containsIce
    rw [hsecures.ice, hsecures₀.ice] at hice
    simpa using hice.symm
  · rintro rfl
    have hdtls := hsame.containsDtls
    rw [hsecures.dtls, hsecures₀.dtls] at hdtls
    simpa using hdtls.symm
  · by_contra hnone
    rw [Option.not_isSome_iff_eq_none] at hnone
    obtain ⟨s₀, hs₀⟩ := Option.isSome_iff_exists.1 hk
    have hrel := hsame k
    have hoffered := h.others k List.not_mem_nil
    rw [session?_answerOffer hseated hread he hnone, session?_answerOffer h.seated hread he₀ hnone,
      hs₀] at hrel
    obtain ⟨s, hs, hsame⟩ := exists_of_rel hrel rfl
    obtain ⟨s', hs', -, hoffer⟩ := exists_of_rel hoffered hs₀
    obtain rfl : s = s' := Option.some.inj (hs.symm.trans hs')
    have hopen := hsame.isOpen
    rw [hoffer.isOpen, (hblank s₀ (mem_of_session? hs₀)).isOpen] at hopen
    simp at hopen

end Call

end MediaGateway
