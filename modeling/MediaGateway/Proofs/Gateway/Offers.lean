import Mathlib.Data.List.Induction
import MediaGateway.Proofs.Gateway.CallInvariant

/-!
# Where offers come from

A connection that has made an offer makes no other one in its binding, but gives the same again. So
an offer may be older than the request for it. But each was made at a request: nothing else that is
done to a gateway, or by it, makes an offer (`exists_request`).
-/

namespace MediaGateway

namespace Call

variable {c c' : Call} {w : Surroundings} {ports ports' : PortRange} {o : Sdp.Description}

/-- The offer that this side has made. -/
def ownOffer? (c : Call) : Option Sdp.Description :=
  c.exchange.localDescription.filter fun _ => c.exchange.outbound

theorem ownOffer?_of_exchange (h : c'.exchange = c.exchange) : c'.ownOffer? = c.ownOffer? := by
  rw [ownOffer?, h, ownOffer?]

theorem ownOffer?_of_not_outbound (h : c.exchange.outbound = false) : c.ownOffer? = none := by
  cases hl : c.exchange.localDescription <;> simp [ownOffer?, h, hl]

/-- By induction on the sections of the offer. -/
theorem exchange_answerSections (w : Surroundings) (d : Sdp.Description)
    (ms : List Sdp.MediaSection) (answered : List MediaType) (c : Call) (ports : PortRange) :
    (answerSections w d ms answered c ports).2.1.exchange = c.exchange := by
  induction ms generalizing answered c ports with
  | nil => rfl
  | cons m rest ih =>
    rw [Call.answerSections]
    cases (answeredMedium? answered m).bind c.session? with
    | none => exact ih _ _ _
    | some s =>
      rcases he : s.prepareAnswer (c.around w) ports d m with ⟨e | l, s', ports₁⟩
      · simp only [he]
        split
        · exact (ih _ _ _).trans (exchange_withSession _)
        · exact exchange_withSession _
      · simp only [he]
        exact (ih _ _ _).trans (exchange_withSession _)

theorem exchange_connectVideo (c : Call) (w : Surroundings) (d : Sdp.Description) :
    (c.connectVideo w d).2.exchange = c.exchange := by
  unfold connectVideo
  repeat' split
  all_goals first
    | rfl
    | exact exchange_withSession _

theorem exchange_makeOffer_error {browser : Bool} {e : SessionError}
    (h : c.makeOffer w ports browser = (.error e, c', ports')) :
    c'.exchange = { c.exchange with outbound := true } := by
  have hx := exchange_offerSessions (w := w) browser c.sessions c.calling ports
  rw [makeOffer_eq] at h
  split at h <;> rename_i he <;> rw [he] at hx
  · obtain ⟨-, rfl, -⟩ := Prod.mk.inj h |>.imp_right Prod.mk.inj
    exact hx
  · simp at h

/-- Who answers an offer has made none. -/
theorem ownOffer?_answerOffer (w : Surroundings) (ports : PortRange) (text : String) :
    (c.answerOffer w ports text).2.1.ownOffer? = some o → c.ownOffer? = some o := by
  rw [answerOffer_eq]
  split
  · exact id
  · rename_i d m _
    have hx := exchange_answerSections w d d.media [] c.called ports
    split <;> rename_i c₁ ports₁ he <;> rw [he] at hx
    · have hnone : c₁.ownOffer? = none := ownOffer?_of_not_outbound (by rw [hx]; rfl)
      exact fun ho => by simp [hnone] at ho
    · have hout : c₁.exchange.outbound = false := by
        rw [hx]
        rfl
      exact fun ho => by simp [ownOffer?, hout] at ho

/-- Taking an answer is not about the offer. -/
theorem ownOffer?_applyAnswer (w : Surroundings) (text : String) :
    (c.applyAnswer w text).2.ownOffer? = c.ownOffer? := by
  simp only [applyAnswer]
  rcases readRemote text with e | ⟨d, m⟩
  · rfl
  · simp only
    rcases c.audio.connect (c.around w) d m with ⟨e | u, s⟩
    · exact ownOffer?_of_exchange (exchange_withSession s)
    · have hx := exchange_connectVideo (c.withSession s) w d
      rw [exchange_withSession] at hx
      rcases hv : (c.withSession s).connectVideo w d with ⟨e | u, c'⟩
      · rw [hv] at hx
        simp only [hv]
        exact ownOffer?_of_exchange hx
      · rw [hv] at hx
        simp only [ownOffer?, hv]
        rw [hx]

end Call

theorem CallView.PlainStep.ownOffer? {n : Network} {v v' : CallView} {o : Sdp.Description}
    (h : PlainStep n v v') (ho : v'.call.ownOffer? = some o) : v.call.ownOffer? = some o := by
  rcases h.exchange with hsame | hnone
  · rwa [Call.ownOffer?_of_exchange hsame] at ho
  · simp [Call.ownOffer?, hnone] at ho

namespace Gateway

variable {g g' : Gateway} {handle k : Nat} {o : Sdp.Description}

/-- The offer that the connection at a place has made. -/
def ownOffer? (g : Gateway) (k : Nat) : Option Sdp.Description :=
  (g.view? k).bind fun v => v.call.ownOffer?

/-! ## One action -/

theorem ownOffer?_of_steps (h : PlainSteps g g') (ho : g'.ownOffer? k = some o) :
    g.ownOffer? k = some o := by
  obtain ⟨v', hv', ho⟩ := Option.bind_eq_some_iff.1 ho
  obtain ⟨v, hv, hstep⟩ := h k v' hv'
  refine Option.bind_eq_some_iff.2 ⟨v, hv, ?_⟩
  rcases hstep with rfl | hstep
  · exact ho
  · exact hstep.ownOffer? ho

theorem ownOffer?_of_plainTurns (h : PlainTurns g g') (ho : g'.ownOffer? k = some o) :
    g.ownOffer? k = some o := by
  induction h with
  | refl => exact ho
  | tail _ ht ih => exact ih (ownOffer?_of_steps ht.steps ho)

theorem ownOffer?_of_restock (h : Restock g g') (ho : g'.ownOffer? k = some o) :
    g.ownOffer? k = some o := by
  obtain ⟨v', hv', ho⟩ := Option.bind_eq_some_iff.1 ho
  rcases h.view hv' with ⟨v, hv, rfl | hstep⟩ | ⟨id, rfl⟩
  · exact Option.bind_eq_some_iff.2 ⟨v, hv, ho⟩
  · exact Option.bind_eq_some_iff.2 ⟨v, hv, hstep.ownOffer? ho⟩
  · simp [Call.ownOffer?, newCall] at ho

section Exchanges

variable {c : Connection} {call call' : Call} {operation : Operation} {generation : Nat}
  {ports : PortRange}

theorem ownOffer?_of_beginCall (hb : g.beginCall handle operation = .ok (c, call, generation)) :
    g.ownOffer? handle = call.ownOffer? := by
  rw [ownOffer?, view?_of_beginCall hb]
  rfl

theorem ownOffer?_putCall (hb : g.beginCall handle operation = .ok (c, call, generation)) :
    (g.putCall handle call' ports).ownOffer? k =
      if k = handle then call'.ownOffer? else g.ownOffer? k := by
  rw [ownOffer?, ChangesView.putCall g handle call' ports k, view?_of_beginCall hb]
  split <;> rfl

/-- An exchange that leaves no new offer behind, however it goes on. -/
theorem ownOffer?_of_putCall (hb : g.beginCall handle operation = .ok (c, call, generation))
    (hcall : call'.ownOffer? = some o → call.ownOffer? = some o)
    (hrest : PlainTurns (g.putCall handle call' ports) g') (ho : g'.ownOffer? k = some o) :
    g.ownOffer? k = some o := by
  have hput := ownOffer?_of_plainTurns hrest ho
  rw [ownOffer?_putCall hb] at hput
  by_cases hk : k = handle
  · rw [if_pos hk] at hput
    rw [hk, ownOffer?_of_beginCall hb]
    exact hcall hput
  · rwa [if_neg hk] at hput

theorem ownOffer?_of_failStep (hb : g.beginCall handle operation = .ok (c, call, generation))
    (hcall : call'.ownOffer? = some o → call.ownOffer? = some o) {e : SessionError}
    (ho : ((g.putCall handle call' ports).failStep handle e).2.ownOffer? k = some o) :
    g.ownOffer? k = some o := by
  have hcount : ((g.putCall handle call' ports).countNegotiation e).ownOffer? k =
      (g.putCall handle call' ports).ownOffer? k := by
    simp only [countNegotiation]
    split <;> rfl
  have hfail := ownOffer?_of_plainTurns
    (plainChanges_failConnection _ handle).plainMoves.plainTurns ho
  exact ownOffer?_of_putCall hb hcall .refl (hcount.symm.trans hfail)

/-- Nothing but a request for an offer makes one. -/
theorem ownOffer?_generateOffer (hsound : g.CallsSound) {browser : Bool}
    (ho : (g.generateOffer handle browser).2.ownOffer? k = some o) :
    g.ownOffer? k = some o ∨ (k = handle ∧ g.ownOffer? k = none ∧
      (g.generateOffer handle browser).1 = .ok o) := by
  simp only [generateOffer] at ho ⊢
  cases hb : g.beginCall handle .generateOffer with
  | error e =>
    simp only [hb] at ho
    exact .inl ho
  | ok begun =>
    obtain ⟨c, call, generation⟩ := begun
    simp only [hb] at ho ⊢
    cases hcached : call.exchange.localDescription.filter fun _ => call.exchange.outbound with
    | some offer =>
      simp only [hcached] at ho
      exact .inl ho
    | none =>
      simp only [hcached] at ho ⊢
      have hnone : g.ownOffer? handle = none := (ownOffer?_of_beginCall hb).trans hcached
      rcases hm : call.makeOffer (g.surroundings handle) g.ports browser with
        ⟨e | offer, call', ports⟩
      · simp only [hm] at ho
        have hsilent : call'.ownOffer? = none := by
          rw [Call.ownOffer?, Call.exchange_makeOffer_error hm]
          -- A call without an own offer has said nothing yet.
          cases hout : call.exchange.outbound with
          | true => simpa [hout] using hcached
          | false =>
            have hfresh := (hsound handle _ (view?_of_beginCall hb)).fresh rfl hout
            rw [hfresh.1]
            rfl
        exact .inl (ownOffer?_of_failStep hb (by simp [hsilent]) ho)
      · simp only [hm] at ho
        rw [ownOffer?_putCall hb] at ho
        by_cases hk : k = handle
        · obtain ⟨-, hout, hlocal⟩ := Call.makeOffer_ok
            (hsound handle _ (view?_of_beginCall hb)).isSeated hm
          rw [if_pos hk, Call.ownOffer?, hout, hlocal] at ho
          exact .inr ⟨hk, hk ▸ hnone, by rw [Option.some.inj ho]⟩
        · rw [if_neg hk] at ho
          exact .inl ho

theorem ownOffer?_processOffer {text : String}
    (ho : (g.processOffer handle text).2.ownOffer? k = some o) : g.ownOffer? k = some o := by
  simp only [processOffer] at ho
  cases hb : g.beginCall handle .processOffer with
  | error e =>
    simp only [hb] at ho
    exact ho
  | ok begun =>
    obtain ⟨c, call, generation⟩ := begun
    have hcall := Call.ownOffer?_answerOffer (c := call) (o := o) (g.surroundings handle) g.ports text
    simp only [hb] at ho
    rcases ha : call.answerOffer (g.surroundings handle) g.ports text with ⟨e | answer, call', ports⟩
    · rw [ha] at hcall
      simp only [ha] at ho
      exact ownOffer?_of_failStep hb hcall ho
    · rw [ha] at hcall
      simp only [ha] at ho
      exact ownOffer?_of_putCall hb hcall
        (plainChanges_openConnection _ handle _).plainMoves.plainTurns ho

theorem ownOffer?_processAnswer {text : String}
    (ho : (g.processAnswer handle text).2.ownOffer? k = some o) : g.ownOffer? k = some o := by
  simp only [processAnswer] at ho
  cases hb : g.beginCall handle .processAnswer with
  | error e =>
    simp only [hb] at ho
    exact ho
  | ok begun =>
    obtain ⟨c, call, generation⟩ := begun
    have hcall := Call.ownOffer?_applyAnswer (c := call) (g.surroundings handle) text
    simp only [hb] at ho
    split at ho
    · exact ho
    · rcases ha : call.applyAnswer (g.surroundings handle) text with ⟨e | u, call'⟩
      · rw [ha] at hcall
        simp only [ha] at ho
        exact ownOffer?_of_failStep hb (fun h => hcall ▸ h) ho
      · rw [ha] at hcall
        simp only [ha] at ho
        exact ownOffer?_of_putCall hb (fun h => hcall ▸ h)
          (plainChanges_openConnection _ handle _).plainMoves.plainTurns ho

end Exchanges

/-- An offer was there before an action, or it was made at a request. -/
theorem ownOffer?_perform (hsound : g.CallsSound) {a : Action}
    (ho : (g.perform a).ownOffer? k = some o) :
    g.ownOffer? k = some o ∨ (g.ownOffer? k = none ∧
      ∃ browser, a = .generateOffer k browser ∧ (g.generateOffer k browser).1 = .ok o) := by
  cases hk : a.kind with
  | restock => exact .inl (ownOffer?_of_restock (restock_perform g hk) ho)
  | setting => exact .inl (ownOffer?_of_steps (setting_perform g hk).steps ho)
  | redraw =>
    obtain ⟨e, rfl⟩ := Action.eq_redraw hk
    exact .inl ho
  | work =>
    cases hx : a.isExchange with
    | false => exact .inl (ownOffer?_of_plainTurns (plainTurns_perform g hk hx) ho)
    | true =>
      cases a with
      | generateOffer handle browser =>
        rcases ownOffer?_generateOffer hsound ho with hold | ⟨rfl, hnone, hok⟩
        · exact .inl hold
        · exact .inr ⟨hnone, browser, rfl, hok⟩
      | processOffer handle text => exact .inl (ownOffer?_processOffer ho)
      | processAnswer handle text => exact .inl (ownOffer?_processAnswer ho)
      | _ => cases hx

/-! ## Runs -/

variable (config : GatewayConfig) (environment : Environment)

/-- At a request after some actions of a run, a connection that had made no offer made one. -/
structure Requested (k : Nat) (o : Sdp.Description) (past : List Action) (browser : Bool) : Prop where
  fresh : ((make config environment).run past).ownOffer? k = none
  made : (((make config environment).run past).generateOffer k browser).1 = .ok o

/-- An offer that is there after a run was made at a request, by induction on the run from its end. -/
theorem exists_request_of_ownOffer? {actions : List Action}
    (ho : ((make config environment).run actions).ownOffer? k = some o) :
    ∃ past browser, past ++ [.generateOffer k browser] <+: actions ∧
      Requested config environment k o past browser := by
  induction actions using List.reverseRecOn with
  | nil => simp [run, ownOffer?, view?, get?, make] at ho
  | append_singleton actions a ih =>
    have hsound := callsSound_run config environment actions
    have hlast : (make config environment).run (actions ++ [a]) =
        ((make config environment).run actions).perform a := List.foldl_append
    rw [hlast] at ho
    rcases ownOffer?_perform hsound ho with hold | ⟨hnone, browser, rfl, hok⟩
    · obtain ⟨past, browser, hprefix, hmade⟩ := ih hold
      exact ⟨past, browser, hprefix.trans (List.prefix_append _ _), hmade⟩
    · exact ⟨actions, browser, List.prefix_rfl, hnone, hok⟩

/-- An offer that a connection gives was made at this request or at an earlier one. -/
theorem exists_request {actions : List Action} {browser : Bool}
    (hok : (((make config environment).run actions).generateOffer k browser).1 = .ok o) :
    ∃ past browser', past ++ [.generateOffer k browser'] <+: actions ++ [.generateOffer k browser] ∧
      Requested config environment k o past browser' := by
  cases ho : ((make config environment).run actions).ownOffer? k with
  | none => exact ⟨actions, browser, List.prefix_rfl, ho, hok⟩
  | some o' =>
    have hsame : o' = o := by
      simp only [generateOffer] at hok
      split at hok
      · simp at hok
      · rename_i c call generation hb
        have hcached : (call.exchange.localDescription.filter fun _ => call.exchange.outbound) = some o' :=
          (ownOffer?_of_beginCall hb).symm.trans ho
        simpa [hcached] using hok
    obtain ⟨past, browser', hprefix, hmade⟩ := exists_request_of_ownOffer? config environment ho
    exact ⟨past, browser', hprefix.trans (List.prefix_append _ _), hsame ▸ hmade⟩

end Gateway

end MediaGateway
