import MediaGateway.Proofs.Gateway.Front

/-!
# Muting

Listeners, failure listeners and endpoints may succeed, fail or break off when they are told. Muting
replaces all their outcomes by success. It commutes with every operation on one connection, and
leaves the result of the operation as it is.
-/

namespace MediaGateway

/-! ## Muting -/

/-- The reaction with success for an outcome. -/
def Reaction.mute : Reaction → Reaction
  | .finish _ => .finish .done
  | r => r

/-- The listener with success for an outcome. -/
def Listener.mute (l : Listener) : Listener := { l with reaction := l.reaction.mute }

/-- The failure listener with success for an outcome. -/
def FailureListener.mute (l : FailureListener) : FailureListener := { l with outcome := .done }

/-- The endpoint with success for an outcome. -/
def Endpoint.mute (e : Endpoint) : Endpoint := { e with outcome := .done }

/-- The connection with success for all outcomes of being told. -/
def Connection.mute (c : Connection) : Connection :=
  { c with
    listeners := c.listeners.map Listener.mute
    failureListener := c.failureListener.map FailureListener.mute }

/-- The announcement to those who are muted. -/
def Announcement.mute (a : Announcement) : Announcement :=
  { a with
    endpoint := a.endpoint.map Endpoint.mute
    failure := a.failure.map FailureListener.mute }

/-- The action with success for all outcomes of being told. -/
def Action.mute : Action → Action
  | .addListener handle l => .addListener handle l.mute
  | .setFailureListener handle l => .setFailureListener handle l.mute
  | .attachEndpoint handle e => .attachEndpoint handle e.mute
  | a => a

namespace Gateway

variable {α : Type} (g : Gateway) (handle : Nat) (c : Connection)

/-- The gateway with success for all outcomes of being told. -/
def mute : Gateway :=
  { g with
    connections := g.connections.map (Option.map Connection.mute)
    endpoints := g.endpoints.map Endpoint.mute }

/-- The gateway after an operation is muted, its result stays. -/
def mutedAfter (r : α × Gateway) : α × Gateway := (r.1, r.2.mute)

/-! ## Small steps -/

theorem get?_mute (k : Nat) : g.mute.get? k = (g.get? k).map Connection.mute := by
  rw [get?, get?, mute, List.getElem?_map]
  cases g.connections[k]? with
  | none => rfl
  | some c? => cases c? <;> rfl

variable {g handle} in
theorem modify_mute {u v : Connection → Connection} (h : ∀ c, v c.mute = (u c).mute) :
    g.mute.modify handle v = (g.modify handle u).mute := by
  have hconnections : (g.connections.map (Option.map Connection.mute)).modify handle
      (Option.map v) = (g.connections.modify handle (Option.map u)).map
        (Option.map Connection.mute) := by
    refine List.ext_getElem? fun k => ?_
    simp only [List.getElem?_modify, List.getElem?_map]
    cases g.connections[k]? with
    | none => rfl
    | some c? =>
      cases c? with
      | none => by_cases hk : handle = k <;> simp [hk]
      | some c => by_cases hk : handle = k <;> simp [hk, h c]
  simp only [modify, mute, hconnections]

/-- A change that has nothing to do with being told. -/
theorem modify_mute_same {u : Connection → Connection} (h : ∀ c, u c.mute = (u c).mute) :
    g.mute.modify handle u = (g.modify handle u).mute :=
  modify_mute h

theorem put_mute : g.mute.put handle c.mute = (g.put handle c).mute :=
  modify_mute fun _ => rfl

theorem endpointOf?_mute : g.mute.endpointOf? c.mute = (g.endpointOf? c).map Endpoint.mute := by
  have hget (k : Nat) : g.mute.endpoints[k]? = (g.endpoints[k]?).map Endpoint.mute :=
    List.getElem?_map ..
  have hsame : c.mute.endpoint = c.endpoint := rfl
  rw [endpointOf?, endpointOf?, hsame]
  cases c.endpoint with
  | none => rfl
  | some k =>
    simp only [Option.bind_some, hget]
    cases g.endpoints[k]? with
    | none => rfl
    | some e => cases he : e.alive <;> simp [Option.filter, Endpoint.mute, he]

theorem countOpen_mute (old new : ConnectionState) :
    g.mute.countOpen old new = (g.countOpen old new).mute := rfl

theorem submitHeartbeat_mute (epoch? : Option Nat) :
    g.mute.submitHeartbeat handle epoch? = (g.submitHeartbeat handle epoch?).mute := by
  cases epoch? <;> rfl

theorem enter_mute (state : ConnectionState) :
    g.mute.enter handle state = (g.enter handle state).mute := by
  simp only [enter, get?_mute]
  cases g.get? handle with
  | none => rfl
  | some c =>
    let entered := c.life.enter g.config.timeouts g.scheduler.resolution state
    have hput := put_mute g handle { c with life := entered.1 }
    exact (congrArg (fun g => (g.submitHeartbeat handle entered.2).countOpen c.life.state state)
      hput).trans (by rw [submitHeartbeat_mute, countOpen_mute])

/-! ## Hooks -/

theorem modifyLink_mute (u : Link → Link) :
    g.mute.modifyLink handle u = (g.modifyLink handle u).mute := by
  refine modify_mute fun c => ?_
  cases hl : c.leg <;> simp [Connection.mute, hl]

theorem modifyCall_mute (u : Call → Call) :
    g.mute.modifyCall handle u = (g.modifyCall handle u).mute := by
  refine modify_mute fun c => ?_
  cases hl : c.leg <;> simp [Connection.mute, hl]

theorem link?_mute (c? : Option Connection) :
    (c?.map Connection.mute).bind Connection.link? = c?.bind Connection.link? := by
  cases c? <;> rfl

theorem call?_mute (c? : Option Connection) :
    (c?.map Connection.mute).bind Connection.call? = c?.bind Connection.call? := by
  cases c? <;> rfl

theorem unlink_mute : g.mute.unlink handle = (g.unlink handle).mute := by
  have hpeer : ((g.mute.get? handle).bind Connection.link?).bind Link.peer =
      ((g.get? handle).bind Connection.link?).bind Link.peer := by
    rw [get?_mute, link?_mute]
  rw [unlink, unlink, hpeer]
  cases ((g.get? handle).bind Connection.link?).bind Link.peer with
  | none => rfl
  | some peer => simp only [modifyLink_mute]

theorem hookLink_mute (call : HookCall) :
    g.mute.hookLink handle call = (g.hookLink handle call).mute := by
  cases call with
  | opened => rfl
  | created => exact modifyLink_mute g handle _
  | closed | failed => simp only [hookLink, unlink_mute, modifyLink_mute]
  | applyMode mode =>
    simp only [hookLink]
    split
    · rfl
    · exact modifyLink_mute g handle _

theorem hookCall_mute (id : UInt32) (call : HookCall) :
    g.mute.hookCall handle id call = (g.hookCall handle id call).mute := by
  cases call with
  | opened => rfl
  | _ => exact modifyCall_mute g handle _

theorem callHook_mute (call : HookCall) :
    g.mute.callHook handle c.mute call = mutedAfter (g.callHook handle c call) := by
  have hleg : c.mute.leg = c.leg := rfl
  simp only [callHook, hleg]
  cases c.leg with
  | call _ => exact Prod.ext rfl (hookCall_mute g handle c.id call)
  | link _ => exact Prod.ext rfl (hookLink_mute g handle call)
  | foreign hooks => rfl

/-! ## What comes before the announcement -/

/-- The part of an operation before the announcement, with those muted who are told. -/
def Started.mute (s : Started) : Started := (s.1.map (Option.map Announcement.mute), s.2.mute)

theorem afterHook_mute (h : Hook) {next next' : Gateway → Started}
    (hnext : ∀ g, next' g.mute = Started.mute (next g)) (r : Outcome × Gateway) :
    afterHook h next' (mutedAfter r) = Started.mute (afterHook h next r) := by
  obtain ⟨outcome, g⟩ := r
  cases outcome with
  | done => exact hnext g
  | refused _ | panicked _ => rfl

theorem check_mute (event : StateEvent) : c.mute.check event = c.check event := rfl

theorem startBind_mute : g.mute.startBind handle = Started.mute (g.startBind handle) := by
  simp only [startBind, get?_mute]
  cases g.get? handle with
  | none => rfl
  | some c =>
    simp only [Option.map_some, check_mute]
    split
    · rfl
    · rfl
    · rename_i state _
      rw [callHook_mute]
      refine afterHook_mute _ (fun g => Prod.ext rfl ?_) _
      simp only
      rw [modify_mute_same g handle (by intro c; rfl), enter_mute]
      rfl

theorem startOpen_mute (generation : Option Nat) :
    g.mute.startOpen handle generation = Started.mute (g.startOpen handle generation) := by
  simp only [startOpen, get?_mute]
  cases g.get? handle with
  | none => rfl
  | some c =>
    have hlife : c.mute.life = c.life := rfl
    simp only [Option.map_some, check_mute, hlife]
    split
    · rfl
    · split
      · rfl
      · rfl
      · rename_i state _
        rw [callHook_mute]
        exact afterHook_mute _ (fun g => Prod.ext rfl (enter_mute g handle state)) _

theorem teardown_mute (failed : Bool) :
    g.mute.teardown handle c.mute failed =
      ((g.teardown handle c failed).1.mute, (g.teardown handle c failed).2.mute) := by
  have hgateway :
      (g.mute.teardown handle c.mute failed).2 = (g.teardown handle c failed).2.mute := by
    simp only [teardown, callHook_mute, mutedAfter, dispatchGuarded_snd]
    rw [modify_mute_same _ handle (by intro c; rfl), enter_mute,
      modify_mute_same _ handle (by intro c; rfl)]
    cases failed <;> rfl
  -- The endpoint is looked up last, all else in the announcement comes from the connection.
  have howner : { (g.teardown handle c failed).1.mute with
      endpoint := (g.mute.teardown handle c.mute failed).2.endpointOf? c.mute } =
        (g.teardown handle c failed).1.mute := by
    rw [hgateway, endpointOf?_mute]
    rfl
  refine Prod.ext (Eq.trans ?_ howner) hgateway
  cases failed <;> rfl

theorem startClose_mute : g.mute.startClose handle = Started.mute (g.startClose handle) := by
  simp only [startClose, get?_mute]
  cases g.get? handle with
  | none => rfl
  | some c =>
    simp only [Option.map_some, check_mute]
    split
    · rfl
    · rfl
    · rw [teardown_mute]
      rfl

theorem startFail_mute : g.mute.startFail handle = Started.mute (g.startFail handle) := by
  simp only [startFail, get?_mute]
  cases g.get? handle with
  | none => rfl
  | some c =>
    have hlife : c.mute.life = c.life := rfl
    simp only [Option.map_some, hlife]
    split
    · rw [teardown_mute]
      rfl
    · rfl

theorem startMode_mute (mode : Mode) :
    g.mute.startMode handle mode = Started.mute (g.startMode handle mode) := by
  simp only [startMode, get?_mute]
  cases g.get? handle with
  | none => rfl
  | some c =>
    have hlife : c.mute.life = c.life := rfl
    simp only [Option.map_some, hlife]
    split
    · rfl
    · split
      · rfl
      · rw [callHook_mute]
        refine afterHook_mute _ (fun g => ?_) _
        have hmodify : g.mute.modify handle (fun c => { c with life := { c.life with mode } }) =
            (g.modify handle fun c => { c with life := { c.life with mode } }).mute :=
          modify_mute fun _ => rfl
        simp only [hmodify, endpointOf?_mute]
        rfl

/-! ## The announcement -/

/-- Announcing commutes with muting. -/
def Mutes (tell : Announcer) : Prop := ∀ a g, tell a.mute g.mute = (tell a g).mute

theorem conclude_mute {tell : Announcer} (h : Mutes tell) (s : Started) :
    conclude tell (Started.mute s) = mutedAfter (conclude tell s) := by
  obtain ⟨r, g⟩ := s
  cases r with
  | error e => rfl
  | ok a? =>
    cases a? with
    | none => rfl
    | some a => exact Prod.ext rfl (h a g)

theorem react_mute {tell : Announcer} (h : Mutes tell) (r : Reaction) :
    g.mute.react tell r.mute = (g.react tell r).mute := by
  have hresolve (reference : Nat) : g.mute.resolve? reference = g.resolve? reference := rfl
  cases r with
  | finish outcome => rfl
  | close reference | fail reference | bind reference =>
    simp only [Reaction.mute, react, hresolve]
    split
    · simp only [startClose_mute, startFail_mute, startBind_mute, conclude_mute h]
      rfl
    · rfl

theorem tellListener_mute {tell : Announcer} (h : Mutes tell) (id : UInt32)
    (change : ConnectionState × ConnectionState) (l : Listener) :
    tellListener tell id change g.mute l.mute = (tellListener tell id change g l).mute := by
  have hreacts : l.mute.reactsTo change.2 = l.reactsTo change.2 := rfl
  simp only [tellListener, hreacts]
  split
  · exact react_mute (g.note _) h l.reaction
  · rfl

theorem tellListeners_mute {tell : Announcer} (h : Mutes tell) (a : Announcement) :
    tellListeners tell a.mute g.mute = (tellListeners tell a g).mute := by
  have hchange : a.mute.change = a.change := rfl
  have hfold (change : ConnectionState × ConnectionState) (listeners : List Listener)
      (g : Gateway) : (listeners.map Listener.mute).foldl (tellListener tell a.id change) g.mute =
        (listeners.foldl (tellListener tell a.id change) g).mute := by
    induction listeners generalizing g with
    | nil => rfl
    | cons l rest ih =>
      rw [List.map_cons, List.foldl_cons, List.foldl_cons, tellListener_mute g h, ih]
  simp only [tellListeners, hchange]
  cases a.change with
  | none => rfl
  | some change =>
    have hlisteners : ((g.mute.get? a.mute.handle).map Connection.listeners).getD [] =
        (((g.get? a.handle).map Connection.listeners).getD []).map Listener.mute := by
      have hhandle : a.mute.handle = a.handle := rfl
      rw [hhandle, get?_mute]
      cases g.get? a.handle <;> rfl
    simp only [hlisteners]
    exact hfold change _ g

theorem tellEndpoint_mute (a : Announcement) :
    tellEndpoint a.mute g.mute = (tellEndpoint a g).mute := by
  obtain ⟨handle, id, type, change, mode, endpoint, release, failure⟩ := a
  cases endpoint with
  | none => rfl
  | some e => cases mode <;> cases release <;> rfl

theorem tellFailure_mute (a : Announcement) :
    tellFailure a.mute g.mute = (tellFailure a g).mute := by
  obtain ⟨handle, id, type, change, mode, endpoint, release, failure⟩ := a
  cases failure <;> rfl

/-- By induction on the depth. -/
theorem mutes_announce (depth : Nat) : Mutes (announce depth) := by
  induction depth with
  | zero => exact fun _ _ => rfl
  | succ depth ih =>
    intro a g
    simp only [announce, tellListeners_mute g ih, tellEndpoint_mute, tellFailure_mute]

theorem concludeAll_mute (s : Started) :
    conclude announceAll (Started.mute s) = mutedAfter (conclude announceAll s) :=
  conclude_mute (mutes_announce maxDepth) s

/-! ## The operations -/

theorem bindConnection_mute :
    g.mute.bindConnection handle = mutedAfter (g.bindConnection handle) := by
  rw [bindConnection, startBind_mute, concludeAll_mute]
  rfl

theorem openConnection_mute (generation : Option Nat) :
    g.mute.openConnection handle generation = mutedAfter (g.openConnection handle generation) := by
  rw [openConnection, startOpen_mute, concludeAll_mute]
  rfl

theorem closeConnection_mute :
    g.mute.closeConnection handle = mutedAfter (g.closeConnection handle) := by
  rw [closeConnection, startClose_mute, concludeAll_mute]
  rfl

theorem failConnection_mute : g.mute.failConnection handle = (g.failConnection handle).mute := by
  rw [failConnection, startFail_mute, concludeAll_mute]
  rfl

theorem setMode_mute (mode : Mode) :
    g.mute.setMode handle mode = mutedAfter (g.setMode handle mode) := by
  rw [setMode, startMode_mute, concludeAll_mute]
  rfl

theorem refresh_mute : g.mute.refresh handle = (g.refresh handle).mute :=
  modify_mute fun _ => rfl

theorem heartbeat_mute (epoch : Nat) :
    g.mute.heartbeat handle epoch = mutedAfter (g.heartbeat handle epoch) := by
  simp only [heartbeat, get?_mute]
  cases g.get? handle with
  | none => rfl
  | some c =>
    have hlife : c.mute.life = c.life := rfl
    simp only [Option.map_some, hlife]
    split
    · rfl
    · rename_i life _
      exact Prod.ext rfl (put_mute g handle { c with life })
    · rename_i life _
      rw [← show ({ c with life } : Connection).mute = { c.mute with life } from rfl, put_mute,
        teardown_mute]
      exact Prod.ext rfl (mutes_announce maxDepth _ _)

end Gateway

end MediaGateway
