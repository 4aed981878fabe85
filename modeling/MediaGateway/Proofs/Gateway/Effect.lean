import MediaGateway.Proofs.Gateway.Quiet
import MediaGateway.Proofs.Gateway.Recycling

/-!
# What each action does

With quiet listeners, and links joined with links only, every action has one of a few effects.
`Effect` lists them, and `effect_perform` is what later modules know of the gateway's work.
-/

namespace MediaGateway

/-- Whether a listener only does business of its own. -/
def Reaction.isFinish : Reaction → Bool
  | .finish _ => true
  | _ => false

namespace Action

/-- Whether no listener comes that starts operations of the gateway. -/
def isQuiet : Action → Bool
  | .addListener _ l => l.reaction.isFinish
  | _ => true

/-- Whether the connection at a place may fail by an action. -/
def canFail (a : Action) (handle : Nat) : Prop :=
  match a with
  | .fail k | .generateOffer k _ | .processOffer k _ | .processAnswer k _ | .pollMedia k
  | .pump k => handle = k
  | .tick _ => True
  | _ => False

/-- Whether an action is there to open the connection at a place, and no other one. -/
def opens (a : Action) (handle : Nat) : Prop :=
  match a with
  | .open k | .processOffer k _ | .processAnswer k _ => handle = k
  | _ => False

end Action

/-- Whether there is a link behind a connection. -/
def Connection.isLink (c : Connection) : Bool := c.link?.isSome

theorem Connection.hooks?_of_isLink {c : Connection} (h : c.isLink = true) : c.hooks? = none := by
  cases hl : c.leg <;> simp_all [isLink, link?, hooks?]

theorem Connection.hooks?_of_call? {c : Connection} {call : Call} (h : c.call? = some call) :
    c.hooks? = none := by
  cases hl : c.leg <;> simp_all [call?, hooks?]

namespace Gateway

variable {g g' : Gateway} {handle : Nat} {c : Connection}

/-- Whether an action joins links only. -/
def joinsLinks (g : Gateway) : Action → Bool
  | .join a b => (g.get? a).all Connection.isLink && (g.get? b).all Connection.isLink
  | _ => true

/-- No listener comes that calls back, and only links are joined. -/
def Proper (g : Gateway) (a : Action) : Prop :=
  a.isQuiet = true ∧ g.joinsLinks a = true

instance (g : Gateway) (a : Action) : Decidable (g.Proper a) :=
  inferInstanceAs (Decidable (_ ∧ _))

/-! ## Opening -/

/-- A connection without hooks of someone else opens in its own binding. -/
theorem openConnection_ok (hq : g.Quiet) {f : Front} (hf : g.front? handle = some f)
    (hs : f.life.state = .halfOpen) (hh : f.hooks = none) :
    (g.openConnection handle (some f.life.generation)).1 = .ok () ∧ ∃ c, c.front = f ∧
      Happens g (g.openConnection handle (some f.life.generation)).2 handle .opening c := by
  obtain ⟨c, hc, rfl⟩ := get?_of_front? hf
  have hstate : c.life.state = .halfOpen := hs
  have hcurrent : (Option.any (fun n => !c.life.isCurrent n) (some c.front.life.generation)) =
      false := by
    simp [Lifecycle.isCurrent, hstate, ConnectionState.isBound]
  have ho : c.front.hookOutcome .opened = .done := by simp [Front.hookOutcome, hh]
  obtain ⟨hok, hopens⟩ := openConnection_of_quiet hc (hq.of_get? hc) hcurrent hstate ho
  exact ⟨hok, c, rfl, hopens⟩

/-! ## Modes -/

/-- The mode of a bound connection was set. -/
structure SetsMode (g g' : Gateway) (handle : Nat) (mode : Mode) (c : Connection) : Prop where
  get? : g.get? handle = some c
  bound : c.life.state ≠ .null
  changes : c.life.mode ≠ mode
  fronts : ∀ k, g'.front? k =
    if k = handle then some (c.front.withLife { c.life with mode }) else g.front? k
  links : ∀ k, g'.link? k = linksAfter g.link? handle (.applyMode mode) k
  places : g'.connections.length = g.connections.length
  log : g'.log = g.log ++ (c.front.hookEvents (.applyMode mode) ++
    ((g.endpointOf? c).map fun e => Event.modeUpdated e.name c.life.mode mode).toList)
  endpoints : g'.endpoints = g.endpoints
  failures : g'.metrics.failures = g.metrics.failures

theorem link?_setMode (hc : g.get? handle = some c) (hs : c.life.state ≠ .null) {mode : Mode}
    (hm : c.life.mode ≠ mode) (ho : c.front.hookOutcome .applyMode = .done) (k : Nat) :
    (g.setMode handle mode).2.link? k = linksAfter g.link? handle (.applyMode mode) k := by
  have hbound : c.life.state.isBound = true := by simpa [ConnectionState.isBound] using hs
  have hhook := link?_callHook hc (.applyMode mode) k
  obtain ⟨g₀, hg₀, -⟩ := callHook_of_done g handle (.applyMode mode) ho
  rw [hg₀] at hhook
  simp only [setMode, startMode, hc, hbound, hm, hg₀, afterHook, conclude, Bool.not_true,
    Bool.false_eq_true, if_false]
  rw [announceAll_of_no_change rfl, ← hhook]
  exact link?_modify (by intro c; rfl) k

theorem failures_setMode (hc : g.get? handle = some c) (hs : c.life.state ≠ .null) {mode : Mode}
    (hm : c.life.mode ≠ mode) (ho : c.front.hookOutcome .applyMode = .done) :
    (g.setMode handle mode).2.metrics.failures = g.metrics.failures := by
  have hbound : c.life.state.isBound = true := by simpa [ConnectionState.isBound] using hs
  obtain ⟨g₁, hstart, -⟩ := startMode_of_done hc hbound hm ho
  have hcounts := (counts_startMode g handle mode).failures
  rw [hstart] at hcounts
  rw [setMode, hstart, conclude, announceAll_of_no_change rfl]
  exact hcounts.trans (UInt64.add_zero _)

/-- A mode is set, or a hook is noticed at most. -/
theorem setMode_cases (g : Gateway) (handle : Nat) (mode : Mode) :
    Aside g (g.setMode handle mode).2 ∨ ∃ c, SetsMode g (g.setMode handle mode).2 handle mode c := by
  cases hc : g.get? handle with
  | none =>
    refine .inl ?_
    simp only [setMode, startMode, hc, conclude]
    exact .refl g
  | some c =>
    obtain ⟨hidle, hsame, hset⟩ := setMode_follows hc mode
    by_cases hs : c.life.state = .null
    · rw [hidle hs]
      exact .inl (.refl g)
    · by_cases hm : c.life.mode = mode
      · rw [hsame hs hm]
        exact .inl (.refl g)
      · have hset := hset hs hm
        split at hset
        · rw [hset]
          exact .inl (.noteHook g c.front _)
        · rename_i ho
          obtain ⟨-, hrefronts⟩ := hset
          have hdone := Outcome.refusal?_eq_none.1 ho
          refine .inr ⟨c, hc, hs, hm, hrefronts.fronts, link?_setMode hc hs hm hdone,
            hrefronts.places, ?_, ?_, failures_setMode hc hs hm hdone⟩
          · rw [hrefronts.rest]
            rfl
          · rw [hrefronts.rest]
            rfl

/-! ## Joining -/

/-- Two bound connections with links were linked to each other and opened, one after the other. -/
structure Joins (g g₁ g' : Gateway) (a b : Nat) (ca cb : Connection) : Prop where
  distinct : a ≠ b
  link_left : (g.link? a).isSome
  link_right : (g.link? b).isSome
  front_left : g.front? a = some ca.front
  front_right : g.front? b = some cb.front
  left : Happens (g.link a b) g₁ a .opening ca
  right : Happens g₁ g' b .opening cb

theorem behind_link (g : Gateway) (a b : Nat) : Behind g (g.link a b) :=
  (Behind.modifyLink _).trans (.modifyLink _)

theorem beginNegotiation_ok {operation : Operation} {generation : Nat}
    (h : c.beginNegotiation operation = .ok generation) :
    c.life.state = .halfOpen ∧ generation = c.life.generation := by
  unfold Connection.beginNegotiation at h
  cases hs : c.life.state <;> simp [hs, ConnectionState.on] at h
  exact ⟨rfl, h.symm⟩

/-- Two links that wait to be opened are linked to each other, and both open. -/
theorem openLinked_of_links (hq : g.Quiet) {a b : Nat} {ca cb : Connection} (hab : a ≠ b)
    (ha : g.get? a = some ca) (hb : g.get? b = some cb) (hsa : ca.life.state = .halfOpen)
    (hsb : cb.life.state = .halfOpen) (hla : ca.isLink = true) (hlb : cb.isLink = true) :
    ∃ g₁ g₂, (g.link a b).openLinked a b ca.life.generation cb.life.generation = (.ok (), g₂) ∧
      ∃ ca' cb', Joins g g₁ g₂ a b ca' cb' := by
  have hbehind := behind_link g a b
  have hqlink : (g.link a b).Quiet := by
    intro k f hf
    rw [hbehind.fronts] at hf
    exact hq k f hf
  have hfa : (g.link a b).front? a = some ca.front :=
    (hbehind.fronts a).trans (front?_of_get? ha)
  obtain ⟨hoka, ca', hca', hopena⟩ :=
    openConnection_ok hqlink hfa hsa (Connection.hooks?_of_isLink hla)
  rcases hra : (g.link a b).openConnection a (some ca.front.life.generation) with ⟨r₁, g₁⟩
  rw [hra] at hoka hopena
  obtain rfl : r₁ = .ok () := hoka
  have hfb : g₁.front? b = some cb.front := by
    have hfront := hopena.fronts b
    rw [if_neg (Ne.symm hab), hbehind.fronts] at hfront
    exact hfront.trans (front?_of_get? hb)
  obtain ⟨hokb, cb', hcb', hopenb⟩ :=
    openConnection_ok (hopena.quiet hqlink) hfb hsb (Connection.hooks?_of_isLink hlb)
  rcases hrb : g₁.openConnection b (some cb.front.life.generation) with ⟨r₂, g₂⟩
  rw [hrb] at hokb hopenb
  obtain rfl : r₂ = .ok () := hokb
  refine ⟨g₁, g₂, ?_, ca', cb', hab, ?_, ?_, ?_, ?_, hopena, hopenb⟩
  · have hgenerations (c : Connection) : c.front.life.generation = c.life.generation := rfl
    rw [hgenerations] at hra hrb
    simp only [openLinked, hra, hrb]
  · rw [link?_of_get? ha]
    exact hla
  · rw [link?_of_get? hb]
    exact hlb
  · rw [hca']
    exact front?_of_get? ha
  · rw [hcb']
    exact front?_of_get? hb

/-- A join of links succeeds, or nothing has happened: it fails, or there is nothing to join. -/
theorem join_cases (hq : g.Quiet) {a b : Nat} (hj : g.joinsLinks (.join a b) = true) :
    ((g.join a b).2 = g ∧
      ((g.join a b).1 = .ok () → ¬((g.get? a).isSome = true ∧ (g.get? b).isSome = true))) ∨
      ((g.join a b).1 = .ok () ∧ ∃ g₁ ca cb, Joins g g₁ (g.join a b).2 a b ca cb) := by
  cases ha : g.get? a with
  | none => exact .inl (by simp [join, ha])
  | some ca =>
    cases hb : g.get? b with
    | none => exact .inl (by simp [join, ha, hb])
    | some cb =>
      by_cases hab : a = b
      · exact .inl (by simp [join, ha, hb, if_pos hab])
      · cases hba : ca.beginNegotiation .join with
        | error e => exact .inl (by simp [join, ha, hb, if_neg hab, hba])
        | ok generationA =>
          cases hbb : cb.beginNegotiation .join with
          | error e => exact .inl (by simp [join, ha, hb, if_neg hab, hba, hbb])
          | ok generationB =>
            simp only [joinsLinks, ha, hb, Option.all_some, Bool.and_eq_true] at hj
            obtain ⟨hsa, rfl⟩ := beginNegotiation_ok hba
            obtain ⟨hsb, rfl⟩ := beginNegotiation_ok hbb
            obtain ⟨g₁, g₂, hopened, hjoins⟩ :=
              openLinked_of_links hq hab ha hb hsa hsb hj.1 hj.2
            have hjoin : g.join a b = (.ok (), g₂) := by
              simp only [join, ha, hb, if_neg hab, hba, hbb, hopened]
            rw [hjoin]
            exact .inr ⟨rfl, g₁, hjoins⟩

/-- A join of links that fails leaves everything as it was. -/
theorem join_of_error (hq : g.Quiet) {a b : Nat} (hj : g.joinsLinks (.join a b) = true)
    {e : ConnectionError} (he : (g.join a b).1 = .error e) : (g.join a b).2 = g := by
  rcases join_cases hq hj with ⟨hsame, -⟩ | ⟨hok, -⟩
  · exact hsame
  · rw [hok] at he
    cases he

/-! ## Sending -/

/-- A frame is delivered to a peer that receives, or nothing has happened. -/
theorem send_cases (g : Gateway) (handle : Nat) (frame : Frame) :
    ((g.send handle frame).1 ≠ .ok true ∧ (g.send handle frame).2 = g) ∨
      ∃ c peer p, g.get? handle = some c ∧ g.peer? c = some (peer, p) ∧
        c.life.mode.sends = true ∧ p.life.mode.receives = true ∧
        g.send handle frame =
          (.ok true, (g.modifyLink peer fun l => l.deliver frame).refresh peer) := by
  cases hc : g.get? handle with
  | none => exact .inl (by simp [send, hc])
  | some c =>
    cases hp : g.peer? c with
    | none => exact .inl (by simp [send, hc, hp])
    | some found =>
      obtain ⟨peer, p⟩ := found
      by_cases hmodes : (c.life.mode.sends && p.life.mode.receives) = true
      · obtain ⟨hsends, hreceives⟩ := Bool.and_eq_true_iff.1 hmodes
        refine .inr ⟨c, peer, p, rfl, hp, hsends, hreceives, ?_⟩
        simp only [send, hc, hp, if_pos hmodes]
      · refine .inl ?_
        simp only [send, hc, hp, if_neg hmodes]
        simp

/-! ## Connections come, wait and go -/

/-- What coming, waiting and going make of the connections. -/
inductive Restocked (g : Gateway) : Action → Gateway → Prop
  | same {a g₁} (h : ∀ k, g₁.get? k = g.get? k)
      (places : g₁.connections.length = g.connections.length) : Restocked g a g₁
  /-- A connection comes, without anyone who watches it. -/
  | arrive {a g₁} (c : Connection) (life : c.life = {}) (watched : c.detach = c)
      (link : ∀ l ∈ c.link?, l = {})
      (h : ∀ k, g₁.get? k = if k = g.connections.length then some c else g.get? k)
      (places : g₁.connections.length = g.connections.length + 1) : Restocked g a g₁
  /-- Those who watch a connection are taken off. -/
  | detach {handle g₁}
      (h : ∀ k, g₁.get? k = if k = handle then (g.get? k).map Connection.detach else g.get? k)
      (places : g₁.connections.length = g.connections.length) : Restocked g (.recycle handle) g₁
  /-- A connection goes. -/
  | leave {a g₁} (handle : Nat) (h : ∀ k, g₁.get? k = if k = handle then none else g.get? k)
      (places : g₁.connections.length = g.connections.length) : Restocked g a g₁

theorem restocked_of_added {a : Action} (g₁ : Gateway) (c : Connection) (hlife : c.life = {})
    (hwatched : c.detach = c) (hlink : ∀ l ∈ c.link?, l = {})
    (hconnections : g'.connections = (g₁.addConnection c).2.connections)
    (hg₁ : g₁.connections = g.connections) : Restocked g a g' := by
  have hget (k : Nat) : g'.get? k = (g₁.addConnection c).2.get? k := by
    rw [get?, get?, hconnections]
  refine .arrive c hlife hwatched hlink (fun k => ?_) ?_
  · rw [hget, get?_addConnection, hg₁, get?, get?, hg₁]
  · rw [hconnections, ← hg₁]
    simp [addConnection]

theorem restocked_create (g : Gateway) (type : ConnectionType) :
    Restocked g (.create type) (g.create type).2 := by
  let drawn : Gateway := { g with
    ids := g.ids.draw.2
    metrics := { g.metrics with created := g.metrics.created + 1 } }
  simp only [create, obtain]
  cases hp : g.pool type with
  | cons handle rest =>
    refine .same (fun k => get?_withPool g type rest k) ?_
    cases type <;> rfl
  | nil =>
    cases type with
    | rtp =>
      exact restocked_of_added drawn { id := g.ids.draw.1, leg := .call (g.newCall g.ids.draw.1) }
        rfl rfl (by simp [Connection.link?]) rfl rfl
    | internal =>
      exact restocked_of_added drawn { id := g.ids.draw.1, leg := .link {} } rfl rfl
        (by simp [Connection.link?]) rfl rfl

theorem restocked_recycle (g : Gateway) (handle : Nat) :
    Restocked g (.recycle handle) (g.recycle handle).2 := by
  cases hc : g.get? handle with
  | none => exact .same (fun k => by simp only [recycle, hc]) (by simp only [recycle, hc])
  | some c =>
    cases hf : c.isForeign with
    | true =>
      rw [recycle_of_foreign hc hf]
      exact .same (fun _ => rfl) rfl
    | false =>
      by_cases hs : c.life.state = .null
      · rw [recycle_of_idle hc hf hs]
        refine .detach (fun k => ?_) ?_
        · rw [get?_withPool, get?_modify]
          by_cases hk : k = handle
          · rw [if_pos hk, if_pos hk, hk]
          · rw [if_neg hk, if_neg hk]
        · cases c.type <;> exact length_modify g handle _
      · rw [recycle_of_bound hc hf hs]
        exact .same (fun _ => rfl) rfl

theorem restocked_giveUp (g : Gateway) (reference : Nat) :
    Restocked g (.giveUp reference) (g.giveUp reference) := by
  simp only [giveUp]
  split
  · exact .same (fun _ => rfl) rfl
  · rename_i handle _
    simp only [reap]
    split
    · exact .same (fun _ => rfl) rfl
    · refine .leave handle (fun k => ?_) (by simp)
      simp only [get?, List.getElem?_set]
      by_cases hk : k = handle
      · subst hk
        simp only [if_true]
        split <;> rfl
      · simp only [if_neg hk, if_neg (Ne.symm hk)]

theorem restocked_perform (g : Gateway) {a : Action} (hk : a.kind = .restock) :
    Restocked g a (g.perform a) := by
  cases a with
  | create type => exact restocked_create g type
  | adopt id hooks =>
    exact restocked_of_added g { id, leg := .foreign hooks } rfl rfl (by simp [Connection.link?])
      rfl rfl
  | recycle handle => exact restocked_recycle g handle
  | giveUp reference => exact restocked_giveUp g reference
  | _ => cases hk

/-- Nobody notices that connections come, wait and go. -/
theorem Restock.unnoticed (h : Restock g g') : g'.log = g.log ∧ g'.endpoints = g.endpoints ∧
    g'.metrics.failures = g.metrics.failures := by
  cases h with
  | create type =>
    simp only [Gateway.create, obtain, refer]
    cases type <;> split <;> exact ⟨rfl, rfl, rfl⟩
  | adopt id hooks => exact ⟨rfl, rfl, rfl⟩
  | recycle handle =>
    simp only [Gateway.recycle]
    repeat' split
    any_goals exact ⟨rfl, rfl, rfl⟩
    simp only [withPool]
    split <;> exact ⟨rfl, rfl, rfl⟩
  | giveUp reference =>
    simp only [Gateway.giveUp, reap]
    repeat' split
    all_goals exact ⟨rfl, rfl, rfl⟩

theorem Setting.log (h : Setting g g') : g'.log = g.log := by
  cases h <;> rfl

theorem Setting.metrics (h : Setting g g') : g'.metrics = g.metrics := by
  cases h <;> rfl

theorem Setting.links (h : Setting g g') (k : Nat) : g'.link? k = g.link? k := by
  cases h with
  | setHook handle hook outcome =>
    refine link?_modify (fun c => ?_) k
    cases hl : c.leg <;> simp [Connection.link?, hl]
  | addListener handle l => exact link?_modify (by intro c; rfl) k
  | removeListener handle key => exact link?_modify (by intro c; rfl) k
  | setFailureListener handle l => exact link?_modify (by intro c; rfl) k
  | attachEndpoint handle e => exact link?_modify (by intro c; rfl) k
  | installSink handle => exact (link?_of_connections rfl k).trans (link?_modifyCall _ k)
  | dropEndpoint name => exact link?_of_connections rfl k
  | fetchFrames sink => exact link?_of_connections rfl k
  | dropSink sink => exact link?_of_connections rfl k

/-! ## All actions -/

/-- What an action may do. -/
inductive Effect (g : Gateway) : Action → Gateway → Prop
  | restock {a g₁} (h : Restocked g a g₁) (hlog : g₁.log = g.log)
      (hfailures : g₁.metrics.failures = g.metrics.failures) : Effect g a g₁
  | setting {a} (hk : a.kind = .setting) : Effect g a (g.perform a)
  | lapses {a g₁} (h : Lapses a.canFail g g₁) : Effect g a g₁
  | bind {g₁ k c} (h : Happens g g₁ k .binding c) : Effect g (.bind k) g₁
  | open {a g₁ g₂ k c} (ha : a.opens k) (haside : Aside g g₁) (h : Happens g₁ g₂ k .opening c) :
      Effect g a g₂
  | close {g₁ k c} (h : Happens g g₁ k .closing c) : Effect g (.close k) g₁
  | setMode {g₁ k mode c} (h : SetsMode g g₁ k mode c) : Effect g (.setMode k mode) g₁
  | join {g₁ g₂ a b ca cb} (h : Joins g g₁ g₂ a b ca cb) : Effect g (.join a b) g₂
  | send {k frame c peer p} (hc : g.get? k = some c) (hp : g.peer? c = some (peer, p))
      (hsends : c.life.mode.sends = true) (hreceives : p.life.mode.receives = true) :
      Effect g (.send k frame) ((g.modifyLink peer fun l => l.deliver frame).refresh peer)
  | receive (k) : Effect g (.receive k) (g.receive k).2
  | clearLog : Effect g .clearLog g.clearLog

theorem Effect.of_aside {a : Action} (h : Aside g g') : Effect g a g' :=
  .lapses (lapses_of_aside h)

theorem beginCall_front {operation : Operation} {call : Call} {generation : Nat}
    (hb : g.beginCall handle operation = .ok (c, call, generation)) :
    g.front? handle = some c.front ∧ c.front.life.state = .halfOpen ∧ c.front.hooks = none ∧
      generation = c.front.life.generation := by
  obtain ⟨hc, hcall, hs, hgeneration⟩ := beginCall_ok hb
  exact ⟨front?_of_get? hc, hs, Connection.hooks?_of_call? hcall, hgeneration⟩

/-- After an exchange the connection opens. -/
theorem opens_putCall (hq : g.Quiet) {operation : Operation} {call : Call} {generation : Nat}
    (hb : g.beginCall handle operation = .ok (c, call, generation)) (call' : Call)
    (ports : PortRange) :
    ∃ c', Happens (g.putCall handle call' ports)
      ((g.putCall handle call' ports).openConnection handle (some generation)).2 handle .opening c' := by
  obtain ⟨hf, hs, hh, rfl⟩ := beginCall_front hb
  have haside := Aside.putCall g handle call' ports
  obtain ⟨f, hf', hsame⟩ := haside.exists_front hf
  rw [Front.untimed_eq_iff] at hsame
  have hgeneration : f.life.generation = c.front.life.generation := by rw [hsame]; rfl
  have hstate : f.life.state = .halfOpen := by rw [hsame]; exact hs
  have hhooks : f.hooks = none := by rw [hsame]; exact hh
  obtain ⟨-, c', -, hopens⟩ := openConnection_ok (haside.quiet hq) hf' hstate hhooks
  rw [hgeneration] at hopens
  exact ⟨c', hopens⟩

theorem effect_processOffer (hq : g.Quiet) (handle : Nat) (text : String) :
    Effect g (.processOffer handle text) (g.processOffer handle text).2 := by
  simp only [processOffer]
  split
  · exact .of_aside (.refl g)
  · rename_i c call generation hb
    split
    · have hfails : (Action.processOffer handle text).canFail handle := rfl
      exact .lapses (lapses_failStep hq hfails _ _ _)
    · rename_i answer call' ports _
      obtain ⟨c', hopens⟩ := opens_putCall hq hb call' ports
      exact .open rfl (.putCall g handle call' ports) hopens

theorem effect_processAnswer (hq : g.Quiet) (handle : Nat) (text : String) :
    Effect g (.processAnswer handle text) (g.processAnswer handle text).2 := by
  simp only [processAnswer]
  split
  · exact .of_aside (.refl g)
  · rename_i c call generation hb
    split
    · exact .of_aside (.refl g)
    · split
      · have hfails : (Action.processAnswer handle text).canFail handle := rfl
        exact .lapses (lapses_failStep hq hfails _ _ _)
      · rename_i u call' _
        obtain ⟨c', hopens⟩ := opens_putCall hq hb call' g.ports
        exact .open rfl (.putCall g handle call' g.ports) hopens

theorem aside_transmitOn (g : Gateway) (handle : Nat) (media : MediaType)
    (p : MediaSession.Payload) : Aside g (g.transmitOn handle media p) := by
  simp only [transmitOn]
  split
  · rename_i s _
    have hmetrics :=
      s.control_transmit g.metrics g.environment.network g.now p g.environment.overflow
    rcases ht : s.transmit g.metrics g.environment.network g.now p g.environment.overflow with
      ⟨r, s', metrics⟩
    rw [ht] at hmetrics
    have hsent : Aside g { g.modifyCall handle fun c => c.withSession s' with metrics } :=
      .metered _ hmetrics
    simp only [transmit, ht]
    split
    · refine hsent.trans ?_
      simp only [carry]
      split
      · exact .modifyCall _
      · exact .refl _
    · exact hsent
  · exact .refl g

theorem effect_restock (g : Gateway) {a : Action} (hk : a.kind = .restock) :
    Effect g a (g.perform a) := by
  obtain ⟨hlog, -, hfailures⟩ := (restock_perform g hk).unnoticed
  exact .restock (restocked_perform g hk) hlog hfailures

theorem effect_perform (hq : g.Quiet) (ht : Timed [] g) {a : Action} (hj : g.joinsLinks a = true) :
    Effect g a (g.perform a) := by
  cases a with
  | create _ | adopt _ _ | recycle _ | giveUp _ =>
    exact effect_restock g rfl
  | setHook _ _ _ | addListener _ _ | removeListener _ _ | setFailureListener _ _
  | attachEndpoint _ _ | dropEndpoint _ | installSink _ | fetchFrames _ | dropSink _ =>
    exact .setting rfl
  | bind handle =>
    rcases operate_cases hq handle .binding with haside | ⟨c, h⟩
    · exact .of_aside haside
    · exact .bind h
  | «open» handle =>
    rcases operate_cases hq handle .opening with haside | ⟨c, h⟩
    · exact .of_aside haside
    · exact .open rfl (.refl g) h
  | close handle =>
    rcases operate_cases hq handle .closing with haside | ⟨c, h⟩
    · exact .of_aside haside
    · exact .close h
  | fail handle => exact .lapses (lapses_failConnection hq rfl)
  | setMode handle mode =>
    rcases setMode_cases g handle mode with haside | ⟨c, h⟩
    · exact .of_aside haside
    · exact .setMode h
  | refresh handle => exact .of_aside (.refresh g handle)
  | join a b =>
    rcases join_cases hq hj with ⟨hsame, -⟩ | ⟨-, g₁, ca, cb, h⟩
    · have hperform : g.perform (.join a b) = g := hsame
      rw [hperform]
      exact .of_aside (.refl g)
    · exact .join h
  | send handle frame =>
    rcases send_cases g handle frame with ⟨-, hsame⟩ | ⟨c, peer, p, hc, hp, hsends, hreceives, h⟩
    · have hperform : g.perform (.send handle frame) = g := hsame
      rw [hperform]
      exact .of_aside (.refl g)
    · have hperform : g.perform (.send handle frame) =
          (g.modifyLink peer fun l => l.deliver frame).refresh peer := congrArg Prod.snd h
      rw [hperform]
      exact .send hc hp hsends hreceives
  | receive handle => exact .receive handle
  | generateOffer handle browser =>
    have hfails : (Action.generateOffer handle browser).canFail handle := rfl
    exact .lapses (lapses_generateOffer hq hfails browser)
  | processOffer handle text => exact effect_processOffer hq handle text
  | processAnswer handle text => exact effect_processAnswer hq handle text
  | pollMedia handle => exact .lapses (lapses_pollMedia hq rfl)
  | pump handle => exact .lapses (lapses_pump hq rfl)
  | transmit handle media p => exact .of_aside (aside_transmitOn g handle media p)
  | arrive handle media a => exact .of_aside (.modifyCall _)
  | tick q => exact .lapses (lapses_tick hq ht q)
  | elapse millis =>
    -- Stated for every clock, so that nothing is computed about this one.
    have hwall (wall : WallClock) : Effect g (.elapse millis) { g with wall } :=
      .of_aside (.of_connections rfl rfl rfl rfl)
    exact hwall _
  | redraw environment => exact .of_aside (.of_connections rfl rfl rfl rfl)
  | clearLog => exact .clearLog

/-! ## Listeners stay quiet -/

theorem front?_modifyLink (u : Link → Link) (k : Nat) :
    (g.modifyLink handle u).front? k = g.front? k :=
  (Behind.modifyLink u).fronts k

/-- Sending and receiving concern no front, but for the time that is left. -/
theorem untimed_send (g : Gateway) (peer : Nat) (frame : Frame) (k : Nat) :
    (((g.modifyLink peer fun l => l.deliver frame).refresh peer).front? k).map Front.untimed =
      (g.front? k).map Front.untimed := by
  rw [(Aside.refresh _ peer).fronts, front?_modifyLink]

theorem Quiet.of_untimed (hq : g.Quiet)
    (h : ∀ k, (g'.front? k).map Front.untimed = (g.front? k).map Front.untimed) : g'.Quiet := by
  intro k f' hf' l hl
  have hfront := h k
  rw [hf', Option.map_some, eq_comm, Option.map_eq_some_iff] at hfront
  obtain ⟨f, hf, heq⟩ := hfront
  have hlisteners : f.listeners = f'.listeners := by
    have := congrArg Front.listeners heq
    exact this
  exact hq k f hf l (hlisteners ▸ hl)

theorem Quiet.restocked (hq : g.Quiet) {a : Action} (h : Restocked g a g') : g'.Quiet := by
  intro k f hf
  obtain ⟨c, hc, rfl⟩ := get?_of_front? hf
  cases h with
  | same h _ => exact hq.of_get? (h k ▸ hc)
  | arrive c' _ watched _ h _ =>
    rw [h] at hc
    by_cases hk : k = g.connections.length
    · rw [if_pos hk] at hc
      obtain rfl := Option.some.inj hc
      have hnone : c'.listeners = [] := by rw [← watched]; rfl
      intro l hl
      rw [show c'.front.listeners = [] from hnone] at hl
      cases hl
    · rw [if_neg hk] at hc
      exact hq.of_get? hc
  | @detach handle _ h _ =>
    rw [h] at hc
    by_cases hk : k = handle
    · rw [if_pos hk, Option.map_eq_some_iff] at hc
      obtain ⟨c', -, rfl⟩ := hc
      intro l hl
      cases hl
    · rw [if_neg hk] at hc
      exact hq.of_get? hc
  | leave handle h _ =>
    rw [h] at hc
    by_cases hk : k = handle
    · rw [if_pos hk] at hc
      cases hc
    · rw [if_neg hk] at hc
      exact hq.of_get? hc

theorem Quiet.setting (hq : g.Quiet) {a : Action} (hk : a.kind = .setting)
    (ha : a.isQuiet = true) : (g.perform a).Quiet := by
  intro k f hf l hl
  obtain ⟨c', hc', rfl⟩ := get?_of_front? hf
  obtain ⟨c, hc, hsucceeds⟩ := succeeds_setting hk hc'
  rcases hsucceeds.listeners l hl with hold | rfl
  · exact hq.of_get? hc l hold
  · cases hr : l.reaction with
    | finish outcome => exact ⟨outcome, rfl⟩
    | _ => simp [Action.isQuiet, Reaction.isFinish, hr] at ha

theorem Quiet.perform (hq : g.Quiet) (ht : Timed [] g) {a : Action} (hp : g.Proper a) :
    (g.perform a).Quiet := by
  have heffect := effect_perform hq ht hp.2
  generalize hg' : g.perform a = g' at heffect
  cases heffect with
  | restock h _ => exact hq.restocked h
  | setting hk => exact hq.setting hk hp.1
  | lapses h => exact h.quiet hq
  | bind h => exact h.quiet hq
  | «open» _ haside h => exact h.quiet (haside.quiet hq)
  | close h => exact h.quiet hq
  | setMode h =>
    intro k f hf
    rw [h.fronts] at hf
    split at hf
    · obtain rfl := Option.some.inj hf
      exact hq.of_get? h.get?
    · exact hq k f hf
  | join h =>
    exact h.right.quiet (h.left.quiet (hq.of_untimed fun k => by rw [(behind_link g _ _).fronts]))
  | send _ _ _ _ => exact hq.of_untimed (untimed_send g _ _)
  | receive k => exact hq.of_untimed fun k => by rw [Gateway.receive, front?_modifyLink]
  | clearLog => exact hq

/-- What holds of all gateways between the actions of a run with quiet listeners. -/
structure Steady (g : Gateway) : Prop where
  quiet : g.Quiet
  timed : Timed [] g

theorem Steady.make (config : GatewayConfig) (environment : Environment) :
    (make config environment).Steady :=
  ⟨.make config environment, .make config environment⟩

theorem Steady.perform (h : g.Steady) {a : Action} (hp : g.Proper a) : (g.perform a).Steady :=
  ⟨h.quiet.perform h.timed hp, h.timed.perform a⟩

theorem Steady.effect (h : g.Steady) {a : Action} (hp : g.Proper a) : Effect g a (g.perform a) :=
  effect_perform h.quiet h.timed hp.2

/-- What a gateway and every proper action preserve holds after every proper run, by induction on the
actions. -/
theorem Steady.induction {I : Gateway → Prop} (hstep : ∀ g a, g.Steady → g.Proper a → I g →
    I (g.perform a)) {actions : List Action} (h : g.Steady) (hI : I g)
    (hp : g.Throughout Proper actions) : (g.run actions).Steady ∧ I (g.run actions) := by
  induction actions generalizing g with
  | nil => exact ⟨h, hI⟩
  | cons a rest ih => exact ih (h.perform hp.1) (hstep g a h hp.1 hI) hp.2

theorem Steady.run (h : g.Steady) {actions : List Action} (hp : g.Throughout Proper actions) :
    (g.run actions).Steady :=
  (h.induction (I := fun _ => True) (fun _ _ _ _ h => h) trivial hp).1

end Gateway

end MediaGateway
