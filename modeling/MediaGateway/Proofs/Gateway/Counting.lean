import MediaGateway.Proofs.Connection.Metering
import MediaGateway.Proofs.Gateway.Lives

/-!
# What the gateway counts

The metrics of the control plane change where a connection is built, where one enters a state, where
one fails and where an exchange comes to no agreement. `Counts` says of some work by how much the
counters grow, and that the gauge of open connections is off by as much as before. Pieces of work
add up, so this can be said of a whole run, whatever listeners do in between.
-/

namespace MediaGateway

/-- Whether the connection is open. -/
def Connection.isOpened (c : Connection) : Bool := c.life.state == .opened

/-- What is counted in some work. -/
structure Tally where
  /-- Connections that were built. -/
  built : Nat := 0
  /-- Connections that ended by failure. -/
  failed : Nat := 0
  /-- Exchanges that came to no agreement. -/
  disagreed : Nat := 0

instance : Add Tally where
  add s t := ⟨s.built + t.built, s.failed + t.failed, s.disagreed + t.disagreed⟩

theorem Tally.mk_add_mk (built failed disagreed built' failed' disagreed' : Nat) :
    (⟨built, failed, disagreed⟩ + ⟨built', failed', disagreed'⟩ : Tally) =
      ⟨built + built', failed + failed', disagreed + disagreed'⟩ := rfl

/-- How a count changes with one of the items. -/
theorem countP_modify {α : Type} {l : List α} {i : Nat} {a : α} (h : l[i]? = some a) (f : α → α)
    (p : α → Bool) :
    (l.modify i f).countP p + (if p a then 1 else 0) = l.countP p + if p (f a) then 1 else 0 := by
  induction l generalizing i with
  | nil => simp at h
  | cons b rest ih =>
    cases i with
    | zero =>
      obtain rfl := Option.some.inj h
      simp only [List.modify_zero_cons, List.countP_cons]
      omega
    | succ i =>
      have hrest := ih (by simpa using h)
      simp only [List.modify_succ_cons, List.countP_cons]
      omega

namespace Gateway

variable {g g' g'' : Gateway} {handle : Nat} {c : Connection} {t t' : Tally}

/-- The number of connections that are open. -/
def openCount (g : Gateway) : Nat :=
  g.connections.countP fun c? => c?.any Connection.isOpened

theorem openCount_congr (hstates : ∀ k, (g'.get? k).any Connection.isOpened =
    (g.get? k).any Connection.isOpened) (hplaces : g'.connections.length = g.connections.length) :
    g'.openCount = g.openCount := by
  have hmap : g'.connections.map (fun c? => c?.any Connection.isOpened) =
      g.connections.map fun c? => c?.any Connection.isOpened := by
    refine List.ext_getElem (by simpa using hplaces) fun k hk' hk => ?_
    have hstate := hstates k
    simp only [List.length_map] at hk hk'
    simpa [get?, hk, hk'] using hstate
  have hcount (g : Gateway) : g.openCount =
      (g.connections.map fun c? => c?.any Connection.isOpened).count true := by
    simp [openCount, List.count, List.countP_map, Function.comp_def]
  rw [hcount, hcount, hmap]

theorem openCount_put (hc : g.get? handle = some c) (c' : Connection) :
    (g.put handle c').openCount + (if c.isOpened then 1 else 0) =
      g.openCount + if c'.isOpened then 1 else 0 := by
  have hplace : g.connections[handle]? = some (some c) := by
    simpa [get?, Option.join_eq_some_iff] using hc
  exact countP_modify hplace _ _

/-! ## Pieces of work -/

/-- What work counts. -/
structure Counts (g g' : Gateway) (t : Tally) : Prop where
  gauge : g'.metrics.openConnections - g'.openCount = g.metrics.openConnections - g.openCount
  created : g'.metrics.created = g.metrics.created + .ofNat t.built
  failures : g'.metrics.failures = g.metrics.failures + .ofNat t.failed
  negotiationFailures :
    g'.metrics.negotiationFailures = g.metrics.negotiationFailures + .ofNat t.disagreed

namespace Counts

theorem trans (h : Counts g g' t) (h' : Counts g' g'' t') : Counts g g'' (t + t') where
  gauge := h'.gauge.trans h.gauge
  created := by
    rw [h'.created, h.created, UInt64.add_assoc, ← UInt64.ofNat_add]
    rfl
  failures := by
    rw [h'.failures, h.failures, UInt64.add_assoc, ← UInt64.ofNat_add]
    rfl
  negotiationFailures := by
    rw [h'.negotiationFailures, h.negotiationFailures, UInt64.add_assoc, ← UInt64.ofNat_add]
    rfl

/-- Nothing is counted where no connection opens or ceases to be open. -/
theorem of_states (hstates : ∀ k, (g'.get? k).any Connection.isOpened =
      (g.get? k).any Connection.isOpened)
    (hplaces : g'.connections.length = g.connections.length)
    (hmetrics : g'.metrics.control = g.metrics.control) : Counts g g' {} := by
  simp only [Metrics.control, ControlMetrics.mk.injEq] at hmetrics
  obtain ⟨hcreated, hfailures, hnegotiation, hgauge⟩ := hmetrics
  refine ⟨?_, ?_, ?_, ?_⟩
  · rw [openCount_congr hstates hplaces, hgauge]
  · rw [hcreated]
    exact (UInt64.add_zero _).symm
  · rw [hfailures]
    exact (UInt64.add_zero _).symm
  · rw [hnegotiation]
    exact (UInt64.add_zero _).symm

theorem of_connections (hconnections : g'.connections = g.connections)
    (hmetrics : g'.metrics.control = g.metrics.control) : Counts g g' {} :=
  .of_states (fun k => by rw [get?, get?, hconnections]) (by rw [hconnections]) hmetrics

theorem refl (g : Gateway) : Counts g g {} := .of_connections rfl rfl

theorem modify {u : Connection → Connection}
    (hu : ∀ c, g.get? handle = some c → (u c).isOpened = c.isOpened) :
    Counts g (g.modify handle u) {} := by
  refine .of_states (fun k => ?_) (length_modify g handle u) rfl
  have hsame := congrArg (Option.any id) (map_get?_modify hu k)
  rwa [Option.any_map, Option.any_map] at hsame

theorem of_lives (h : SameLives g g') (hmetrics : g'.metrics.control = g.metrics.control) :
    Counts g g' {} := by
  refine .of_states (fun k => ?_) h.places hmetrics
  have hopened (g : Gateway) : (g.get? k).any Connection.isOpened =
      (g.life? k).any fun l => l.state == .opened := by
    rw [life?, front?, Option.any_map, Option.any_map]
    rfl
  rw [hopened, hopened, h.lives]

theorem of_behind (h : Behind g g') : Counts g g' {} :=
  .of_lives (.of_behind h) (by rw [h.rest])

theorem callHook (g : Gateway) (handle : Nat) (c : Connection) (call : HookCall) :
    Counts g (g.callHook handle c call).2 {} := by
  have hnote : Counts g (g.noteAll (c.front.hookEvents call)) {} := .of_connections rfl rfl
  exact hnote.trans (.of_behind (behind_callHook g handle c call))

/-- The gauge follows a connection into a state, unless it was open and enters `OPEN` again. -/
theorem enter {l : Lifecycle} (hl : g.life? handle = some l) {state : ConnectionState}
    (h : l.state ≠ .opened ∨ state ≠ .opened) : Counts g (g.enter handle state) {} := by
  obtain ⟨f, hf, rfl⟩ := Option.map_eq_some_iff.1 hl
  obtain ⟨c, hc, rfl⟩ := get?_of_front? hf
  have hput := openCount_put hc { c with
    life := (c.life.enter g.config.timeouts g.scheduler.resolution state).1 }
  have hstate : (c.life.enter g.config.timeouts g.scheduler.resolution state).1.state = state := by
    simp only [Lifecycle.enter, Lifecycle.rearm]
    repeat' split
    all_goals rfl
  have hcount (g : Gateway) (epoch? : Option Nat) (old : ConnectionState) :
      ((g.submitHeartbeat handle epoch?).countOpen old state).openCount = g.openCount := by
    cases epoch? <;> rfl
  have hmetrics (g : Gateway) (epoch? : Option Nat) (old : ConnectionState) :
      ((g.submitHeartbeat handle epoch?).countOpen old state).metrics =
        { g.metrics with openConnections := g.metrics.openConnections +
          if state = .opened then 1 else if old = .opened then -1 else 0 } := by
    cases epoch? <;> rfl
  simp only [Connection.isOpened, hstate, beq_iff_eq] at hput
  simp only [Gateway.enter, hc]
  refine ⟨?_, ?_, ?_, ?_⟩
  · rw [hcount, hmetrics]
    have hold : c.front.life.state = c.life.state := rfl
    rw [hold] at h
    have hgauge : (g.put handle { c with
        life := (c.life.enter g.config.timeouts g.scheduler.resolution state).1 }).metrics =
        g.metrics := rfl
    simp only [hgauge]
    rcases h with h | h
    · rw [if_neg h] at hput ⊢
      split_ifs at hput ⊢ <;> omega
    · rw [if_neg h] at hput ⊢
      split_ifs at hput ⊢ <;> omega
  all_goals
    rw [hmetrics]
    exact (UInt64.add_zero _).symm

theorem afterHook {h : Hook} {next : Gateway → Started} {r : Outcome × Gateway}
    (hr : Counts g r.2 {}) (hnext : Counts r.2 (next r.2).2 {}) :
    Counts g (afterHook h next r).2 {} := by
  obtain ⟨_ | _ | _, g₁⟩ := r
  · exact hr.trans hnext
  · exact hr
  · exact hr

end Counts

theorem life?_callHook (hc : g.get? handle = some c) (call : HookCall) :
    (g.callHook handle c call).2.life? handle = some c.life := by
  have hfront := (behind_callHook g handle c call).fronts handle
  rw [life?, hfront]
  exact life?_of_get? hc

theorem counts_startBind (g : Gateway) (handle : Nat) : Counts g (g.startBind handle).2 {} := by
  simp only [startBind]
  split
  · exact .refl g
  · rename_i c hc
    split
    · exact .refl g
    · exact .refl g
    · rename_i state hcheck
      have hnext := check_eq_next.1 hcheck
      have hstate : state ≠ .opened := by
        rintro rfl
        cases hs : c.life.state <;> simp [hs, ConnectionState.on] at hnext
      refine .afterHook (.callHook g handle c _) ?_
      have hlife := life?_callHook hc .created
      generalize (g.callHook handle c .created).2 = g₁ at hlife ⊢
      have hbegin : Counts g₁ (g₁.modify handle fun c =>
          { c with life := { c.life with generation := c.life.generation + 1 } }) {} :=
        .modify fun _ _ => rfl
      obtain ⟨f, hf, -⟩ := Option.map_eq_some_iff.1 hlife
      obtain ⟨c₁, hc₁, -⟩ := get?_of_front? hf
      have hagain : (g₁.modify handle fun c => { c with life :=
          { c.life with generation := c.life.generation + 1 } }).life? handle =
            some { c₁.life with generation := c₁.life.generation + 1 } := by
        rw [life?, front?, get?_modify, if_pos rfl, hc₁]
        rfl
      exact hbegin.trans (.enter hagain (.inr hstate))

theorem counts_startOpen (g : Gateway) (handle : Nat) (generation : Option Nat) :
    Counts g (g.startOpen handle generation).2 {} := by
  simp only [startOpen]
  split
  · exact .refl g
  · rename_i c hc
    split
    · exact .refl g
    · split
      · exact .refl g
      · exact .refl g
      · rename_i state hcheck
        have hnext := check_eq_next.1 hcheck
        have hold : c.life.state ≠ .opened := by
          intro hs
          simp [hs, ConnectionState.on] at hnext
        exact .afterHook (.callHook g handle c _) (.enter (life?_callHook hc .opened) (.inl hold))

theorem counts_startMode (g : Gateway) (handle : Nat) (mode : Mode) :
    Counts g (g.startMode handle mode).2 {} := by
  simp only [startMode]
  repeat' split
  all_goals first
    | exact .refl g
    | exact .afterHook (.callHook g handle _ _) (.modify fun _ _ => rfl)

theorem counts_ended {l : Lifecycle} (hl : g.life? handle = some l) : Counts g (g.ended handle) {} := by
  have hmode : Counts g
      (g.modify handle fun c => { c with life := { c.life with mode := .inactive } }) {} :=
    .modify fun _ _ => rfl
  obtain ⟨f, hf, -⟩ := Option.map_eq_some_iff.1 hl
  obtain ⟨c, hc, -⟩ := get?_of_front? hf
  have hagain : (g.modify handle fun c =>
      { c with life := { c.life with mode := .inactive } }).life? handle =
        some { c.life with mode := .inactive } := by
    rw [life?, front?, get?_modify, if_pos rfl, hc]
    rfl
  have hnull : ConnectionState.null ≠ .opened := by decide
  have hrelease (g : Gateway) : Counts g
      (g.modify handle fun c => { c with endpoint := none, failureListener := none }) {} :=
    .modify fun _ _ => rfl
  exact (hmode.trans (.enter hagain (.inr hnull))).trans (hrelease _)

theorem counts_teardown (hc : g.get? handle = some c) (failed : Bool) :
    Counts g (g.teardown handle c failed).2 { failed := if failed then 1 else 0 } := by
  have hended := (Counts.callHook g handle c (endHook failed)).trans
    (counts_ended (life?_callHook hc (endHook failed)))
  rw [teardown_ended]
  cases failed with
  | false => exact hended
  | true =>
    refine ⟨hended.gauge, hended.created, ?_, hended.negotiationFailures⟩
    have hfailures := hended.failures.trans (UInt64.add_zero _)
    exact congrArg (· + 1) hfailures

theorem counts_startClose (g : Gateway) (handle : Nat) : Counts g (g.startClose handle).2 {} := by
  simp only [startClose]
  split
  · exact .refl g
  · rename_i c hc
    split
    · exact .refl g
    · exact .refl g
    · exact counts_teardown hc false

theorem counts_startFail (g : Gateway) (handle : Nat) :
    ∃ failed, Counts g (g.startFail handle).2 { failed } := by
  simp only [startFail]
  split
  · exact ⟨0, .refl g⟩
  · rename_i c hc
    split
    · exact ⟨1, counts_teardown hc true⟩
    · exact ⟨0, .refl g⟩

/-! ## Work outside of exchanges -/

theorem counts_unlink (g : Gateway) (handle : Nat) : Counts g (g.unlink handle) {} :=
  .of_behind .unlink

theorem counts_refresh (g : Gateway) (handle : Nat) : Counts g (g.refresh handle) {} := by
  refine .modify fun c _ => ?_
  simp only [Connection.isOpened, Lifecycle.refresh]
  split <;> rfl

theorem counts_beat (hc : g.get? handle = some c) {epoch : Nat} {beat : Lifecycle.Beat}
    {life : Lifecycle} (hb : c.life.beat epoch = (beat, life)) :
    Counts g (g.put handle { c with life }) {} := by
  have hstate : life.state = c.life.state := by
    unfold Lifecycle.beat at hb
    split at hb <;> rw [← (Prod.mk.inj hb).2]
  refine .modify fun d hd => ?_
  obtain rfl : c = d := Option.some.inj (hc.symm.trans hd)
  simp only [Connection.isOpened, hstate]

theorem Telling.counts (h : Telling g g') : ∃ failed, Counts g g' { failed } := by
  cases h with
  | note e => exact ⟨0, .of_connections rfl rfl⟩
  | bind handle => exact ⟨0, counts_startBind g handle⟩
  | close handle => exact ⟨0, counts_startClose g handle⟩
  | fail handle => exact counts_startFail g handle

theorem PlainChange.counts (h : PlainChange g g') : ∃ failed, Counts g g' { failed } := by
  have hmetered {metrics : Metrics} (hmetrics : metrics.control = g.metrics.control)
      (handle : Nat) (u : Call → Call) :
      Counts g { g.modifyCall handle u with metrics } {} :=
    .of_lives ((SameLives.modifyCall u).trans (.of_connections rfl rfl rfl)) hmetrics
  cases h with
  | telling h => exact h.counts
  | «open» handle generation => exact ⟨0, counts_startOpen g handle generation⟩
  | setMode handle mode => exact ⟨0, counts_startMode g handle mode⟩
  | link _ _ _ _ _ => exact ⟨0, .of_behind ((Behind.modifyLink _).trans (.modifyLink _))⟩
  | unlink handle => exact ⟨0, counts_unlink g handle⟩
  | receive handle => exact ⟨0, .of_behind (.modifyLink _)⟩
  | @poll handle c call r call' metrics _ _ _ hp =>
    have hmetrics := call.control_poll g.metrics g.now
    rw [hp] at hmetrics
    exact ⟨0, hmetered hmetrics handle _⟩
  | play _ _ => exact ⟨0, .of_lives ((SameLives.modifyCall _).trans (.fillSink _ _ _)) (by
      unfold fillSink
      split <;> rfl)⟩
  | @transmit handle c call media s p r s' metrics _ _ _ ht =>
    have hmetrics := s.control_transmit g.metrics g.environment.network g.now p g.environment.overflow
    rw [ht] at hmetrics
    exact ⟨0, hmetered hmetrics handle _⟩
  | arrive handle media a => exact ⟨0, .of_behind (.modifyCall _)⟩
  | elapse millis => exact ⟨0, .of_connections rfl rfl⟩
  | clearLog => exact ⟨0, .of_connections rfl rfl⟩

theorem PlainMove.counts (h : PlainMove g g') : ∃ failed, Counts g g' { failed } := by
  cases h with
  | change h => exact h.counts
  | refresh handle => exact ⟨0, counts_refresh g handle⟩
  | send handle frame =>
    refine ⟨0, ?_⟩
    simp only [Gateway.send]
    split
    · exact .refl g
    · split
      · exact .refl g
      · split
        · rename_i peer _ _ _
          exact (Counts.of_behind (.modifyLink _)).trans (counts_refresh _ peer)
        · exact .refl g

theorem PlainTurn.counts (h : PlainTurn g g') : ∃ failed, Counts g g' { failed } := by
  cases h with
  | move h => exact h.counts
  | beat hc hb => exact ⟨0, counts_beat hc hb⟩
  | @expire handle c epoch life hc hb =>
    have hagain : (g.put handle { c with life }).get? handle = some { c with life } := by
      rw [get?_put, if_pos rfl, hc]
      rfl
    exact ⟨1, (counts_beat hc hb).trans (counts_teardown hagain true)⟩
  | takeTasks q => exact ⟨0, .of_connections rfl rfl⟩
  | keepTasks q tasks => exact ⟨0, .of_connections rfl rfl⟩

/-- Work outside of exchanges counts failures only, by induction on its pieces. -/
theorem PlainTurns.counts (h : PlainTurns g g') : ∃ failed, Counts g g' { failed } := by
  induction h with
  | refl => exact ⟨0, .refl g⟩
  | tail _ ht ih =>
    obtain ⟨failed, hbefore⟩ := ih
    obtain ⟨more, hpiece⟩ := ht.counts
    exact ⟨failed + more, hbefore.trans hpiece⟩

/-! ## Exchanges -/

theorem counts_countNegotiation (g : Gateway) (e : SessionError) :
    Counts g (g.countNegotiation e) { disagreed := e.isNegotiation.toNat } := by
  unfold countNegotiation
  cases e.isNegotiation with
  | false => exact .refl g
  | true => exact ⟨rfl, (UInt64.add_zero _).symm, (UInt64.add_zero _).symm, rfl⟩

theorem counts_putCall (g : Gateway) (handle : Nat) (call : Call) (ports : PortRange) :
    Counts g (g.putCall handle call ports) {} :=
  .of_lives (.putCall g handle call ports) rfl

theorem counts_failStep (g : Gateway) (handle : Nat) (call : Call) (ports : PortRange)
    (e : SessionError) : ∃ failed, Counts g ((g.putCall handle call ports).failStep handle e).2
      { failed, disagreed := e.isNegotiation.toNat } := by
  have hput := (counts_putCall g handle call ports).trans (counts_countNegotiation _ e)
  have hfail := plainChanges_failConnection ((g.putCall handle call ports).countNegotiation e) handle
  obtain ⟨failed, hcounts⟩ := hfail.plainMoves.plainTurns.counts
  rw [failStep_eq]
  refine ⟨failed, ?_⟩
  have hall := hput.trans hcounts
  simpa [Tally.mk_add_mk] using hall

/-- Whether two sides came to no agreement. -/
def isDisagreement {α : Type} : Except ConnectionError α → Bool
  | .error e => e.isNegotiation
  | .ok _ => false

theorem beginCall_error {operation : Operation} {e : ConnectionError}
    (h : g.beginCall handle operation = .error e) : e.isNegotiation = false := by
  unfold beginCall at h
  split at h
  · cases h
    rfl
  · rename_i c _
    split at h
    · rename_i hbegin
      unfold Connection.beginNegotiation at hbegin
      cases h
      split at hbegin <;> cases hbegin <;> rfl
    · cases h
      rfl
    · cases h

theorem openConnection_error {generation : Option Nat} {e : ConnectionError}
    (h : (g.openConnection handle generation).1 = .error e) : e.isNegotiation = false := by
  have hstart : ∀ {s : Started}, (conclude announceAll s).1 = .error e → s.1 = .error e := by
    rintro ⟨_ | _ | _, _⟩ h <;> simp_all [conclude]
  have hstarted := hstart h
  unfold startOpen at hstarted
  split at hstarted
  · cases hstarted
  · rename_i c _
    split at hstarted
    · cases hstarted
      rfl
    · split at hstarted
      · rename_i hcheck
        unfold Connection.check at hcheck
        cases hstarted
        split at hcheck <;> cases hcheck
        rfl
      · cases hstarted
      · generalize g.callHook handle c .opened = r at hstarted
        obtain ⟨_ | _ | _, g₁⟩ := r <;> cases hstarted <;> rfl

theorem counts_generateOffer (g : Gateway) (handle : Nat) (browser : Bool) :
    ∃ failed, Counts g (g.generateOffer handle browser).2
      { failed, disagreed := (isDisagreement (g.generateOffer handle browser).1).toNat } := by
  simp only [generateOffer]
  split
  · rename_i e hb
    simp only [isDisagreement, beginCall_error hb]
    exact ⟨0, .refl g⟩
  · split
    · exact ⟨0, .refl g⟩
    · split
      · exact ⟨0, counts_putCall g handle _ _⟩
      · exact counts_failStep g handle _ _ _

/-- Opening at the end of an exchange is no disagreement, even if it is refused. -/
theorem counts_putCall_open {α : Type} (g : Gateway) (handle : Nat) (call : Call)
    (ports : PortRange) (generation : Option Nat) (f : Unit → α) :
    ∃ failed, Counts g ((g.putCall handle call ports).openConnection handle generation).2
      { failed, disagreed := (isDisagreement
        (((g.putCall handle call ports).openConnection handle generation).1.map f)).toNat } := by
  have hopen := plainChanges_openConnection (g.putCall handle call ports) handle generation
  obtain ⟨failed, hcounts⟩ := hopen.plainMoves.plainTurns.counts
  have hagreed : isDisagreement
      (((g.putCall handle call ports).openConnection handle generation).1.map f) = false := by
    cases hr : ((g.putCall handle call ports).openConnection handle generation).1 with
    | error e => exact openConnection_error hr
    | ok _ => rfl
  rw [hagreed]
  refine ⟨failed, ?_⟩
  have hall := (counts_putCall g handle call ports).trans hcounts
  simpa [Tally.mk_add_mk] using hall

theorem counts_processOffer (g : Gateway) (handle : Nat) (text : String) :
    ∃ failed, Counts g (g.processOffer handle text).2
      { failed, disagreed := (isDisagreement (g.processOffer handle text).1).toNat } := by
  simp only [processOffer]
  split
  · rename_i e hb
    simp only [isDisagreement, beginCall_error hb]
    exact ⟨0, .refl g⟩
  · split
    · exact counts_failStep g handle _ _ _
    · exact counts_putCall_open g handle _ _ _ _

theorem counts_processAnswer (g : Gateway) (handle : Nat) (text : String) :
    ∃ failed, Counts g (g.processAnswer handle text).2
      { failed, disagreed := (isDisagreement (g.processAnswer handle text).1).toNat } := by
  simp only [processAnswer]
  split
  · rename_i e hb
    simp only [isDisagreement, beginCall_error hb]
    exact ⟨0, .refl g⟩
  · split
    · exact ⟨0, .refl g⟩
    · split
      · exact counts_failStep g handle _ _ _
      · rename_i call _ generation _ _ _ _ call' _
        have hopen := counts_putCall_open g handle call' g.ports (some generation) id
        simpa only [Except.map_id, id_eq] using hopen

end Gateway

end MediaGateway
