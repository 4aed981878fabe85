import MediaGateway.Proofs.Gateway.Muting

/-!
# Nothing depends on how being told ends

Muting commutes with everything that is done to a gateway, and leaves all that is given back as it
is. So runs that differ only in how being told ends give the same back, and all connections live the
same lives.
-/

namespace MediaGateway

/-- What is given back. -/
inductive Reply where
  | nothing
  | done (r : Except ConnectionError Unit)
  | answer (r : Except ConnectionError Bool)
  | number (r : Except ConnectionError Nat)
  | description (r : Except ConnectionError Sdp.Description)
  | sent (r : Attempt (Except SessionError (Option MediaSession.Outgoing)))
  | frame (f : Option Frame)
  | frames (fs : List (MediaType × Frame))

namespace Gateway

variable (g : Gateway) (handle : Nat) (c : Connection)

/-! ## Links -/

theorem link_mute (a b : Nat) : g.mute.link a b = (g.link a b).mute := by
  rw [link, modifyLink_mute, modifyLink_mute]
  rfl

theorem openLinked_mute (a b generationA generationB : Nat) :
    g.mute.openLinked a b generationA generationB =
      mutedAfter (g.openLinked a b generationA generationB) := by
  simp only [openLinked, openConnection_mute, mutedAfter]
  rcases g.openConnection a (some generationA) with ⟨e | u, g₁⟩
  · exact Prod.ext rfl (unlink_mute g₁ a)
  · simp only [openConnection_mute, mutedAfter]
    rcases g₁.openConnection b (some generationB) with ⟨e | u, g₂⟩
    · simp only [failConnection_mute, unlink_mute]
    · rfl

theorem join_mute (a b : Nat) : g.mute.join a b = mutedAfter (g.join a b) := by
  have hnegotiation (c : Connection) :
      c.mute.beginNegotiation .join = c.beginNegotiation .join := rfl
  simp only [join, get?_mute]
  cases g.get? a with
  | none => cases g.get? b <;> rfl
  | some ca =>
    cases g.get? b with
    | none => rfl
    | some cb =>
      simp only [Option.map_some, hnegotiation]
      split
      · rfl
      · split
        · rfl
        · rfl
        · rw [link_mute, openLinked_mute]

theorem peer?_mute :
    g.mute.peer? c.mute = (g.peer? c).map fun p => (p.1, p.2.mute) := by
  have hlink : c.mute.link? = c.link? := rfl
  simp only [peer?, get?_mute, hlink]
  cases c.link?.bind Link.peer with
  | none => rfl
  | some peer => cases hp : g.get? peer <;> simp [hp]

theorem send_mute (frame : Frame) :
    g.mute.send handle frame = mutedAfter (g.send handle frame) := by
  simp only [send, get?_mute]
  cases g.get? handle with
  | none => rfl
  | some c =>
    simp only [Option.map_some, peer?_mute]
    cases g.peer? c with
    | none => rfl
    | some found =>
      obtain ⟨peer, p⟩ := found
      have hmodes : (c.mute.life.mode.sends && p.mute.life.mode.receives) =
          (c.life.mode.sends && p.life.mode.receives) := rfl
      simp only [Option.map_some, hmodes]
      split
      · simp only [modifyLink_mute, refresh_mute]
        rfl
      · rfl

theorem receive_mute : g.mute.receive handle = mutedAfter (g.receive handle) := by
  simp only [receive, get?_mute, link?_mute, modifyLink_mute]
  rfl

/-! ## Calls -/

theorem addressesOfOthers_mute : g.mute.addressesOfOthers handle = g.addressesOfOthers handle := by
  have hzip : g.mute.connections.zipIdx =
      g.connections.zipIdx.map (Prod.map (Option.map Connection.mute) id) := List.zipIdx_map ..
  simp only [addressesOfOthers, hzip, List.flatMap_map]
  refine congrArg (fun f => List.flatMap f _) (funext fun entry => ?_)
  simp only [Prod.map, call?_mute, id]

theorem surroundings_mute : g.mute.surroundings handle = g.surroundings handle := by
  simp only [surroundings, addressesOfOthers_mute]
  rfl

theorem listenerAt?_mute (address : SocketAddress) :
    g.mute.listenerAt? address = g.listenerAt? address := by
  have hzip : g.mute.connections.zipIdx =
      g.connections.zipIdx.map (Prod.map (Option.map Connection.mute) id) := List.zipIdx_map ..
  simp only [listenerAt?, hzip, List.findSome?_map]
  refine congrArg (fun f => List.findSome? f _) (funext fun entry => ?_)
  simp only [Function.comp, Prod.map, call?_mute, id]

theorem putCall_mute (call : Call) (ports : PortRange) :
    g.mute.putCall handle call ports = (g.putCall handle call ports).mute := by
  rw [putCall, modifyCall_mute]
  rfl

theorem failStep_mute (e : SessionError) :
    g.mute.failStep handle e = mutedAfter (g.failStep handle e) := by
  have hcount : g.mute.countNegotiation e = (g.countNegotiation e).mute := by
    unfold countNegotiation
    split <;> rfl
  rw [failStep_eq, failStep_eq, hcount, failConnection_mute]
  rfl

theorem beginCall_mute (operation : Operation) :
    g.mute.beginCall handle operation =
      (g.beginCall handle operation).map fun r => (r.1.mute, r.2) := by
  simp only [beginCall, get?_mute]
  cases g.get? handle with
  | none => rfl
  | some c =>
    have hnegotiation : c.mute.beginNegotiation operation = c.beginNegotiation operation := rfl
    have hcall : c.mute.call? = c.call? := rfl
    simp only [Option.map_some, hnegotiation, hcall]
    cases c.beginNegotiation operation with
    | error e => rfl
    | ok generation => cases c.call? <;> rfl

theorem generateOffer_mute (browser : Bool) :
    g.mute.generateOffer handle browser = mutedAfter (g.generateOffer handle browser) := by
  simp only [generateOffer, beginCall_mute]
  rcases g.beginCall handle .generateOffer with e | ⟨c, call, generation⟩
  · rfl
  · simp only [Except.map, surroundings_mute]
    split
    · rfl
    · have hports : g.mute.ports = g.ports := rfl
      simp only [hports]
      rcases call.makeOffer (g.surroundings handle) g.ports browser with ⟨e | offer, call', ports⟩
      · simp only [putCall_mute, failStep_mute]
        rfl
      · simp only [putCall_mute]
        rfl

theorem processOffer_mute (text : String) :
    g.mute.processOffer handle text = mutedAfter (g.processOffer handle text) := by
  simp only [processOffer, beginCall_mute]
  rcases g.beginCall handle .processOffer with e | ⟨c, call, generation⟩
  · rfl
  · have hports : g.mute.ports = g.ports := rfl
    simp only [Except.map, surroundings_mute, hports]
    rcases call.answerOffer (g.surroundings handle) g.ports text with ⟨e | answer, call', ports⟩
    · simp only [putCall_mute, failStep_mute]
      rfl
    · simp only [putCall_mute, openConnection_mute]
      rfl

theorem processAnswer_mute (text : String) :
    g.mute.processAnswer handle text = mutedAfter (g.processAnswer handle text) := by
  simp only [processAnswer, beginCall_mute]
  rcases g.beginCall handle .processAnswer with e | ⟨c, call, generation⟩
  · rfl
  · have hports : g.mute.ports = g.ports := rfl
    simp only [Except.map, surroundings_mute, hports]
    split
    · rfl
    · rcases call.applyAnswer (g.surroundings handle) text with ⟨e | u, call'⟩
      · simp only [putCall_mute, failStep_mute]
        rfl
      · simp only [putCall_mute, openConnection_mute]

theorem pollMedia_mute : g.mute.pollMedia handle = mutedAfter (g.pollMedia handle) := by
  simp only [pollMedia, get?_mute]
  cases g.get? handle with
  | none => rfl
  | some c =>
    have hcall : c.mute.call? = c.call? := rfl
    have hlife : c.mute.life = c.life := rfl
    have hmetrics : g.mute.metrics = g.metrics := rfl
    have hnow : g.mute.now = g.now := rfl
    simp only [Option.map_some, hcall, hlife, hmetrics, hnow]
    cases c.call? with
    | none => rfl
    | some call =>
      simp only
      split
      · rfl
      · have hpolled (call : Call) (metrics : Metrics) :
            { g.mute.modifyCall handle fun _ => call with metrics } =
              ({ g.modifyCall handle fun _ => call with metrics } : Gateway).mute := by
          rw [modifyCall_mute]
          rfl
        rcases call.poll g.metrics g.now with ⟨e | n, call', metrics⟩
        · simp only [hpolled, failConnection_mute]
          rfl
        · simp only [hpolled]
          split
          · rw [refresh_mute]
            rfl
          · rfl

theorem fillSink_mute (sink : Option Nat) (frames : List (MediaType × Frame)) :
    g.mute.fillSink sink frames = (g.fillSink sink frames).mute := by
  cases sink <;> rfl

theorem pump_mute : g.mute.pump handle = mutedAfter (g.pump handle) := by
  simp only [pump, pollMedia_mute, mutedAfter]
  rcases g.pollMedia handle with ⟨e | n, g₁⟩
  · rfl
  · simp only [get?_mute, call?_mute]
    cases (g₁.get? handle).bind Connection.call? with
    | none => rfl
    | some call =>
      simp only [modifyCall_mute, fillSink_mute]
      rfl

theorem arrive_mute (media : MediaType) (a : Arrival) :
    g.mute.arrive handle media a = (g.arrive handle media a).mute :=
  modifyCall_mute g handle _

theorem transmit_mute (s : MediaSession) (p : MediaSession.Payload) :
    g.mute.transmit handle s p = mutedAfter (g.transmit handle s p) := by
  have hmetrics : g.mute.metrics = g.metrics := rfl
  have hnetwork : g.mute.environment.network = g.environment.network := rfl
  have hoverflow : g.mute.environment.overflow = g.environment.overflow := rfl
  have hnow : g.mute.now = g.now := rfl
  simp only [transmit, hmetrics, hnetwork, hoverflow, hnow]
  rcases s.transmit g.metrics g.environment.network g.now p g.environment.overflow with
    ⟨r, s', metrics⟩
  have hsent : { g.mute.modifyCall handle fun c => c.withSession s' with metrics } =
      ({ g.modifyCall handle fun c => c.withSession s' with metrics } : Gateway).mute := by
    rw [modifyCall_mute]
    rfl
  have hcarry (g : Gateway) (o : MediaSession.Outgoing) : g.mute.carry o = (g.carry o).mute := by
    simp only [carry, listenerAt?_mute]
    split
    · exact arrive_mute g _ _ _
    · rfl
  simp only [hsent]
  split
  · exact Prod.ext rfl (hcarry _ _)
  · rfl

theorem session?_mute (media : MediaType) :
    ((g.mute.get? handle).bind Connection.call?).bind (fun call => call.session? media) =
      ((g.get? handle).bind Connection.call?).bind fun call => call.session? media := by
  rw [get?_mute, call?_mute]

theorem transmitOn_mute (media : MediaType) (p : MediaSession.Payload) :
    g.mute.transmitOn handle media p = (g.transmitOn handle media p).mute := by
  simp only [transmitOn, session?_mute, transmit_mute]
  split <;> rfl

/-! ## Connections that come, wait or go -/

theorem addConnection_mute : g.mute.addConnection c.mute = mutedAfter (g.addConnection c) := by
  have hconnections : g.mute.connections ++ [some c.mute] =
      (g.connections ++ [some c]).map (Option.map Connection.mute) := by
    rw [List.map_append]
    rfl
  simp only [addConnection, hconnections]
  exact Prod.ext (List.length_map _) rfl

theorem build_mute (type : ConnectionType) : g.mute.build type = mutedAfter (g.build type) := by
  let drawn : Gateway :=
    { g with
      ids := g.ids.draw.2
      metrics := { g.metrics with created := g.metrics.created + 1 } }
  cases type with
  | internal => exact addConnection_mute drawn { id := g.ids.draw.1, leg := .link {} }
  | rtp =>
    have hadd := addConnection_mute drawn
      { id := g.ids.draw.1, leg := .call (drawn.newCall g.ids.draw.1) }
    exact congrArg (fun r : Nat × Gateway =>
      (r.1, { r.2 with scheduler := r.2.scheduler.submit .media (.media r.1) })) hadd

theorem pool_mute (type : ConnectionType) : g.mute.pool type = g.pool type := by
  cases type <;> rfl

theorem withPool_mute (type : ConnectionType) (handles : List Nat) :
    g.mute.withPool type handles = (g.withPool type handles).mute := by
  cases type <;> rfl

theorem obtain_mute (type : ConnectionType) : g.mute.obtain type = mutedAfter (g.obtain type) := by
  simp only [obtain, pool_mute]
  split
  · rw [withPool_mute]
    rfl
  · exact build_mute g type

theorem create_mute (type : ConnectionType) : g.mute.create type = mutedAfter (g.create type) := by
  rw [create, create, obtain_mute]
  rfl

theorem adopt_mute (id : UInt32) (hooks : Hooks) :
    g.mute.adopt id hooks = mutedAfter (g.adopt id hooks) := by
  have hadd := addConnection_mute g { id, leg := .foreign hooks }
  exact congrArg (fun r : Nat × Gateway => r.2.refer r.1) hadd

theorem recycle_mute : g.mute.recycle handle = mutedAfter (g.recycle handle) := by
  simp only [recycle, get?_mute]
  cases g.get? handle with
  | none => rfl
  | some c =>
    have hforeign : c.mute.isForeign = c.isForeign := rfl
    have hlife : c.mute.life = c.life := rfl
    have hdetach : g.mute.modify handle Connection.detach =
        (g.modify handle Connection.detach).mute := modify_mute fun _ => rfl
    have htype : c.mute.type = c.type := rfl
    simp only [Option.map_some, hforeign, hlife, hdetach, htype]
    generalize g.modify handle Connection.detach = g₁
    have hconfig : g₁.mute.config = g₁.config := rfl
    simp only [pool_mute, withPool_mute, hconfig]
    split
    · rfl
    · split
      · rfl
      · split <;> rfl

theorem reap_mute : g.mute.reap handle = (g.reap handle).mute := by
  have hset : g.mute.connections.set handle none =
      (g.connections.set handle none).map (Option.map Connection.mute) := by
    rw [List.map_set]
    rfl
  have hheld : g.mute.isHeld handle = g.isHeld handle := rfl
  simp only [reap, hset, hheld]
  split <;> rfl

theorem giveUp_mute (reference : Nat) : g.mute.giveUp reference = (g.giveUp reference).mute := by
  have hresolve : g.mute.resolve? reference = g.resolve? reference := rfl
  simp only [giveUp, hresolve]
  split
  · rfl
  · exact reap_mute { g with references := g.references.set reference none } _

/-! ## Those who watch -/

theorem setHook_mute (h : Hook) (o : Outcome) :
    g.mute.setHook handle h o = (g.setHook handle h o).mute := by
  refine modify_mute fun c => ?_
  cases hl : c.leg <;> simp [Connection.mute, hl]

theorem addListener_mute (l : Listener) :
    g.mute.addListener handle l.mute = (g.addListener handle l).mute :=
  modify_mute fun c => by simp [Connection.mute]

theorem removeListener_mute (key : Nat) :
    g.mute.removeListener handle key = mutedAfter (g.removeListener handle key) := by
  refine Prod.ext ?_ (modify_mute fun c => ?_)
  · simp only [removeListener, get?_mute, mutedAfter]
    cases g.get? handle with
    | none => rfl
    | some c =>
      simp [Connection.mute, List.any_map]
      rfl
  · simp [Connection.mute, Connection.removeListener, List.filter_map]
    rfl

theorem setFailureListener_mute (l : FailureListener) :
    g.mute.setFailureListener handle l.mute = (g.setFailureListener handle l).mute :=
  modify_mute fun _ => rfl

theorem dropEndpoint_mute (name : String) :
    g.mute.dropEndpoint name = (g.dropEndpoint name).mute := by
  have hendpoints : (g.endpoints.map Endpoint.mute).map
      (fun e => if e.name = name then { e with alive := false } else e) =
        (g.endpoints.map fun e => if e.name = name then { e with alive := false } else e).map
          Endpoint.mute := by
    rw [List.map_map, List.map_map]
    refine List.map_congr_left fun e _ => ?_
    by_cases he : e.name = name <;> simp [Endpoint.mute, he]
  simp only [dropEndpoint, mute, hendpoints]

theorem attachEndpoint_mute (e : Endpoint) :
    g.mute.attachEndpoint handle e.mute = (g.attachEndpoint handle e).mute := by
  have hname : e.mute.name = e.name := rfl
  simp only [attachEndpoint, hname, dropEndpoint_mute]
  generalize g.dropEndpoint e.name = g
  have hlength : g.mute.endpoints.length = g.endpoints.length := List.length_map _
  have hendpoints : g.mute.endpoints ++ [e.mute] = (g.endpoints ++ [e]).map Endpoint.mute := by
    rw [List.map_append]
    rfl
  simp only [setEndpoint, hlength, hendpoints]
  rw [modify_mute_same g handle (by intro c; rfl)]
  rfl

theorem installSink_mute : g.mute.installSink handle = mutedAfter (g.installSink handle) := by
  simp only [installSink, modifyCall_mute]
  rfl

/-! ## Ticks -/

theorem runTask_mute (task : Task) : g.mute.runTask task = mutedAfter (g.runTask task) := by
  cases task with
  | media handle =>
    simp only [runTask, get?_mute, Option.isSome_map, pump_mute]
    split <;> rfl
  | heartbeat handle epoch => exact heartbeat_mute g handle epoch

theorem runTasks_mute (tasks : List Task) :
    g.mute.runTasks tasks = mutedAfter (g.runTasks tasks) := by
  induction tasks generalizing g with
  | nil => rfl
  | cons task rest ih =>
    simp only [runTasks_cons, runTask_mute, mutedAfter, ih]

theorem tick_mute (q : Queue) : g.mute.tick q = mutedAfter (g.tick q) := by
  have htake : g.mute.takeTasks q = (g.takeTasks q).mute := rfl
  have hscheduler : g.mute.scheduler = g.scheduler := rfl
  simp only [tick_eq, htake, hscheduler, runTasks_mute]
  rfl

/-! ## Runs -/

theorem perform_mute (a : Action) : g.mute.perform a.mute = (g.perform a).mute := by
  have hwall (wall : WallClock) : { g.mute with wall } = ({ g with wall } : Gateway).mute := rfl
  cases a with
  | create type => exact congrArg Prod.snd (create_mute g type)
  | adopt id hooks => exact congrArg Prod.snd (adopt_mute g id hooks)
  | recycle handle => exact congrArg Prod.snd (recycle_mute g handle)
  | giveUp reference => exact giveUp_mute g reference
  | setHook handle hook outcome => exact setHook_mute g handle hook outcome
  | addListener handle l => exact addListener_mute g handle l
  | removeListener handle key => exact congrArg Prod.snd (removeListener_mute g handle key)
  | setFailureListener handle l => exact setFailureListener_mute g handle l
  | attachEndpoint handle e => exact attachEndpoint_mute g handle e
  | dropEndpoint name => exact dropEndpoint_mute g name
  | bind handle => exact congrArg Prod.snd (bindConnection_mute g handle)
  | «open» handle => exact congrArg Prod.snd (openConnection_mute g handle none)
  | close handle => exact congrArg Prod.snd (closeConnection_mute g handle)
  | fail handle => exact failConnection_mute g handle
  | setMode handle mode => exact congrArg Prod.snd (setMode_mute g handle mode)
  | refresh handle => exact refresh_mute g handle
  | join a b => exact congrArg Prod.snd (join_mute g a b)
  | send handle frame => exact congrArg Prod.snd (send_mute g handle frame)
  | receive handle => exact congrArg Prod.snd (receive_mute g handle)
  | generateOffer handle browser => exact congrArg Prod.snd (generateOffer_mute g handle browser)
  | processOffer handle text => exact congrArg Prod.snd (processOffer_mute g handle text)
  | processAnswer handle text => exact congrArg Prod.snd (processAnswer_mute g handle text)
  | pollMedia handle => exact congrArg Prod.snd (pollMedia_mute g handle)
  | pump handle => exact congrArg Prod.snd (pump_mute g handle)
  | transmit handle media payload => exact transmitOn_mute g handle media payload
  | arrive handle media arrival => exact arrive_mute g handle media arrival
  | installSink handle => exact congrArg Prod.snd (installSink_mute g handle)
  | fetchFrames sink => rfl
  | dropSink sink => rfl
  | tick queue => exact congrArg Prod.snd (tick_mute g queue)
  | elapse millis => exact hwall _
  | redraw environment => rfl
  | clearLog => rfl

/-- What is given back for an action. -/
def reply (g : Gateway) : Action → Reply
  | .create type => .number (.ok (g.create type).1)
  | .adopt id hooks => .number (.ok (g.adopt id hooks).1)
  | .recycle handle => .done (g.recycle handle).1
  | .removeListener handle key => .answer (.ok (g.removeListener handle key).1)
  | .bind handle => .done (g.bindConnection handle).1
  | .open handle => .done (g.openConnection handle).1
  | .close handle => .done (g.closeConnection handle).1
  | .setMode handle mode => .done (g.setMode handle mode).1
  | .join a b => .done (g.join a b).1
  | .send handle frame => .answer (g.send handle frame).1
  | .receive handle => .frame (g.receive handle).1
  | .generateOffer handle browser => .description (g.generateOffer handle browser).1
  | .processOffer handle text => .description (g.processOffer handle text).1
  | .processAnswer handle text => .done (g.processAnswer handle text).1
  | .pollMedia handle => .number (g.pollMedia handle).1
  | .pump handle => .number (g.pump handle).1
  | .transmit handle media p =>
    match ((g.get? handle).bind Connection.call?).bind fun call => call.session? media with
    | some s => .sent (g.transmit handle s p).1
    | none => .nothing
  | .installSink handle => .number (.ok (g.installSink handle).1)
  | .fetchFrames sink => .frames (g.fetchFrames sink).1
  | .tick queue => .number (.ok (g.tick queue).1)
  | _ => .nothing

theorem reply_mute (a : Action) : g.mute.reply a.mute = g.reply a := by
  cases a with
  | transmit handle media p =>
    simp only [Action.mute, reply, session?_mute, transmit_mute]
    rfl
  | fetchFrames sink => rfl
  | _ =>
    simp only [Action.mute, reply, create_mute, adopt_mute, recycle_mute, removeListener_mute,
      bindConnection_mute, openConnection_mute, closeConnection_mute, setMode_mute, join_mute,
      send_mute, receive_mute, generateOffer_mute, processOffer_mute, processAnswer_mute,
      pollMedia_mute, pump_mute, installSink_mute, tick_mute, mutedAfter]

/-- What is given back for the actions of a run. -/
def replies (g : Gateway) : List Action → List Reply
  | [] => []
  | a :: rest => g.reply a :: (g.perform a).replies rest

theorem run_mute (actions : List Action) :
    g.mute.run (actions.map Action.mute) = (g.run actions).mute := by
  induction actions generalizing g with
  | nil => rfl
  | cons a rest ih =>
    rw [List.map_cons, run, List.foldl_cons, perform_mute]
    exact ih (g.perform a)

theorem replies_mute (actions : List Action) :
    g.mute.replies (actions.map Action.mute) = g.replies actions := by
  induction actions generalizing g with
  | nil => rfl
  | cons a rest ih => rw [List.map_cons, replies, reply_mute, perform_mute, ih, replies]

theorem life?_mute : g.mute.life? handle = g.life? handle := by
  rw [life?, front?, get?_mute, life?, front?]
  cases g.get? handle <;> rfl

/-- Runs that differ in outcomes only give the same back, are noticed in the same way, and lead to
the same lives. -/
theorem agree_of_mute_eq {actions actions' : List Action}
    (h : actions.map Action.mute = actions'.map Action.mute) :
    g.replies actions = g.replies actions' ∧ (g.run actions).log = (g.run actions').log ∧
      ∀ k, (g.run actions).life? k = (g.run actions').life? k := by
  have hrun : (g.run actions).mute = (g.run actions').mute := by
    rw [← run_mute, h, run_mute]
  have hlog : (g.run actions).mute.log = (g.run actions').mute.log := by rw [hrun]
  refine ⟨?_, hlog, fun k => ?_⟩
  · rw [← replies_mute, h, replies_mute]
  · rw [← life?_mute, hrun, life?_mute]

end Gateway

end MediaGateway
