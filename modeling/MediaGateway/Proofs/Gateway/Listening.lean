import MediaGateway.Proofs.Gateway.Chronicle

/-!
# Listeners hear the history

The history of a connection is read off its states between actions. Of every change all listeners
are told that are there (`Told`). So a listener that is not taken off is told exactly the history of
its connection, whoever else watches, and the history is a path of the transition table.
-/

namespace MediaGateway

/-- Whether changes follow each other and the transition table, from a state on. -/
def ConnectionState.IsPath : ConnectionState → List (ConnectionState × ConnectionState) → Prop
  | _, [] => True
  | s, (old, new) :: rest => old = s ∧ (∃ event, old.on event = .next new) ∧ IsPath new rest

/-- An event of the table changes the state. -/
theorem ConnectionState.target_ne {s : ConnectionState} {event : StateEvent}
    (h : s.on event = .next event.target) : s ≠ event.target := by
  cases s <;> cases event <;> simp [on, StateEvent.target] at h ⊢

/-- Whether an action leaves a listener of a connection on it, the only one of its name. -/
def Action.keeps (handle : Nat) (l : Listener) : Action → Prop
  | .addListener _ other => other.name ≠ l.name
  | .removeListener k key => k = handle → key ≠ l.key
  | .recycle k => k ≠ handle
  | _ => True

instance (handle : Nat) (l : Listener) (a : Action) : Decidable (a.keeps handle l) := by
  cases a <;> simp only [Action.keeps] <;> infer_instance

namespace Gateway

variable {g g' : Gateway} {handle k : Nat} {l : Listener} {id : UInt32}

/-- What others notice of an action. -/
def noticedOf (g : Gateway) (a : Action) : List Event :=
  (g.perform a).log.drop g.log.length

/-- What others notice of actions. -/
def noticed (g : Gateway) : List Action → List Event
  | [] => []
  | a :: rest => g.noticedOf a ++ (g.perform a).noticed rest

/-- The change of the state of a connection from one gateway to another. -/
def changeOf (g g' : Gateway) (handle : Nat) : List (ConnectionState × ConnectionState) :=
  match g.state? handle, g'.state? handle with
  | some old, some new => if old = new then [] else [(old, new)]
  | _, _ => []

/-- The changes of the state of a connection by actions. -/
def history (g : Gateway) (handle : Nat) : List Action → List (ConnectionState × ConnectionState)
  | [] => []
  | a :: rest => g.changeOf (g.perform a) handle ++ (g.perform a).history handle rest

theorem changeOf_of_same (h : g'.state? handle = g.state? handle) : g.changeOf g' handle = [] := by
  rw [changeOf, h]
  cases g.state? handle <;> simp

theorem changeOf_of_none (h : g'.state? handle = none) : g.changeOf g' handle = [] := by
  rw [changeOf, h]
  cases g.state? handle <;> rfl

theorem changeOf_of_event {w : Watch} {event : StateEvent} (hw : g.watch? handle = some w)
    (hallowed : w.state.on event = .next event.target)
    (hafter : g'.watch? handle = some (w.after event)) :
    g.changeOf g' handle = [(w.state, event.target)] := by
  have hne := ConnectionState.target_ne hallowed
  simp [changeOf, state?_eq_watch?, hw, hafter, Watch.after, hne]

/-! ## Watches -/

theorem watch?_of_get?_eq (h : g'.get? k = g.get? k) : g'.watch? k = g.watch? k := by
  rw [watch?, front?, h, watch?, front?]

theorem lt_of_watch? {w : Watch} (h : g.watch? k = some w) : k < g.connections.length := by
  obtain ⟨f, hf, -⟩ := Option.map_eq_some_iff.1 h
  obtain ⟨c, hc, -⟩ := get?_of_front? hf
  exact lt_of_get? hc

theorem watch?_modify {u : Connection → Connection} {v : Watch → Watch}
    (hu : ∀ c, (u c).front.watch = v c.front.watch) (k : Nat) :
    (g.modify handle u).watch? k = if k = handle then (g.watch? k).map v else g.watch? k := by
  simp only [watch?, front?, get?_modify]
  by_cases hk : k = handle
  · subst hk
    rw [if_pos rfl, if_pos rfl]
    cases g.get? k with
    | none => rfl
    | some c => exact congrArg some (hu c)
  · rw [if_neg hk, if_neg hk]

theorem watch?_modify_same {u : Connection → Connection}
    (hu : ∀ c, (u c).front.watch = c.front.watch) (k : Nat) :
    (g.modify handle u).watch? k = g.watch? k := by
  rw [watch?_modify (v := id) hu]
  split <;> simp

/-- A setting changes who watches, and nothing else that is told. -/
theorem watch?_setting {a : Action} (hk : a.kind = .setting) (k : Nat) :
    (g.perform a).watch? k = match a with
      | .addListener x l => if k = x then
          (g.watch? k).map fun w => { w with listeners := w.listeners ++ [l] } else g.watch? k
      | .removeListener x key => if k = x then
          (g.watch? k).map fun w => { w with listeners := w.listeners.filter (·.key ≠ key) }
          else g.watch? k
      | .setFailureListener x l => if k = x then
          (g.watch? k).map fun w => { w with failureListener := some l } else g.watch? k
      | _ => g.watch? k := by
  cases a with
  | addListener x l => exact watch?_modify (by intro c; rfl) k
  | removeListener x key => exact watch?_modify (by intro c; rfl) k
  | setFailureListener x l => exact watch?_modify (by intro c; rfl) k
  | setHook x hook outcome =>
    refine watch?_modify_same (fun c => ?_) k
    cases hl : c.leg <;> rfl
  | attachEndpoint x e => exact watch?_modify_same (g := g) (by intro c; rfl) k
  | installSink x => exact watch?_of_front? ((Behind.modifyCall _).fronts k)
  | dropEndpoint _ | fetchFrames _ | dropSink _ => rfl
  | _ => cases hk

/-- A setting concerns no state. -/
theorem state?_setting {a : Action} (hk : a.kind = .setting) (k : Nat) :
    (g.perform a).state? k = g.state? k := by
  rw [state?, (SameStanding.of_setting hk).stand, state?]

/-- What coming, waiting and going make of the watch of a connection that was there. -/
theorem Restocked.watch? {a : Action} (h : Restocked g a g') (hk : k < g.connections.length) :
    g'.watch? k = g.watch? k ∨ g'.watch? k = none ∨
      (a = .recycle k ∧ g'.watch? k =
        (g.watch? k).map fun w => { w with listeners := [], failureListener := none }) := by
  cases h with
  | same h _ => exact .inl (watch?_of_get?_eq (h k))
  | arrive _ _ _ _ h _ => exact .inl (watch?_of_get?_eq (by rw [h, if_neg (by omega)]))
  | @detach x _ h _ =>
    by_cases hkx : k = x
    · subst hkx
      refine .inr (.inr ⟨rfl, ?_⟩)
      rw [Gateway.watch?, front?, h, if_pos rfl, Gateway.watch?, front?]
      cases g.get? k <;> rfl
    · exact .inl (watch?_of_get?_eq (by rw [h, if_neg hkx]))
  | leave x h _ =>
    by_cases hkx : k = x
    · refine .inr (.inl ?_)
      rw [Gateway.watch?, front?, h, if_pos hkx]
      rfl
    · exact .inl (watch?_of_get?_eq (by rw [h, if_neg hkx]))

theorem state?_of_watch? (h : g'.watch? k = g.watch? k) : g'.state? k = g.state? k := by
  rw [state?_eq_watch?, h, ← state?_eq_watch?]

/-- Coming, waiting and going concern the state of no connection that stays. -/
theorem Restocked.state? {a : Action} (h : Restocked g a g') (hk : k < g.connections.length) :
    g'.state? k = g.state? k ∨ g'.state? k = none := by
  rcases h.watch? hk with hsame | hgone | ⟨-, hdetached⟩
  · exact .inl (state?_of_watch? hsame)
  · exact .inr (by rw [state?_eq_watch?, hgone]; rfl)
  · refine .inl ?_
    rw [state?_eq_watch?, hdetached, state?_eq_watch?, Option.map_map]
    rfl

/-- A connection that comes has nobody who watches it. -/
theorem Restocked.watch?_new {a : Action} (h : Restocked g a g') {w : Watch}
    (hk : g.connections.length ≤ k) (hw : g'.watch? k = some w) :
    w.listeners = [] ∧ w.failureListener = none := by
  have hnone : g.get? k = none := by simp [get?, hk]
  have hcame (hsame : g'.get? k = none) : False := by
    rw [Gateway.watch?, front?, hsame] at hw
    cases hw
  cases h with
  | same h _ => exact (hcame ((h k).trans hnone)).elim
  | arrive c _ watched _ h _ =>
    by_cases hkn : k = g.connections.length
    · rw [Gateway.watch?, front?, h, if_pos hkn] at hw
      obtain rfl := Option.some.inj hw
      rw [← watched]
      exact ⟨rfl, rfl⟩
    · exact (hcame (by rw [h, if_neg hkn, hnone])).elim
  | detach h _ =>
    refine (hcame ?_).elim
    rw [h]
    split
    · rw [hnone]
      rfl
    · exact hnone
  | leave _ h _ =>
    refine (hcame ?_).elim
    rw [h]
    split
    · rfl
    · exact hnone

/-! ## One action -/

/-- What listeners of a name to the connection at a place have to be told about a change, in the
order in which they came. -/
def tidings (g : Gateway) (name : String) (k : Nat) (change : ConnectionState × ConnectionState) :
    List Event :=
  ((g.watch? k).map fun w => (w.listeners.filter (·.name = name)).map fun l =>
    .transition l.name w.id change.1 change.2).getD []

/-- The connections whose states change. All who listen to them are told once, and nobody else. -/
structure Told (g g' : Gateway) (places : List Nat) : Prop where
  nodup : places.Nodup
  mem : ∀ k, k ∈ places ↔ g.changeOf g' k ≠ []
  told : ∀ name, (g'.log.drop g.log.length).filter (Event.tells name) =
    places.flatMap fun k => (g.changeOf g' k).flatMap (g.tidings name k)

theorem Unfolds.told {events : List (Nat × StateEvent)} (hu : Unfolds g events g')
    (honce : (events.map Prod.fst).Nodup) : Told g g' (events.map Prod.fst) where
  nodup := honce
  mem := by
    intro k
    rcases hu.watch? honce k with ⟨hnot, hsame⟩ | ⟨event, w, hmem, hw, hallowed, hafter⟩
    · simp [hnot, changeOf_of_same (state?_of_watch? hsame)]
    · simp [List.mem_map_of_mem (f := Prod.fst) hmem, changeOf_of_event hw hallowed hafter]
  told := by
    intro name
    obtain ⟨noticed, hlog, htold, -⟩ := hu.log honce
    rw [hlog, List.drop_left, htold, List.flatMap_map]
    refine List.flatMap_congr fun ⟨k, event⟩ he => ?_
    rcases hu.watch? honce k with ⟨hnot, -⟩ | ⟨event', w, hmem, hw, hallowed, hafter⟩
    · exact absurd (List.mem_map_of_mem (f := Prod.fst) he) hnot
    · obtain rfl : event = event' :=
        (Prod.mk.inj (List.inj_on_of_nodup_map honce he hmem rfl)).2
      rw [changeOf_of_event hw hallowed hafter, List.flatMap_singleton, tidings, hw]
      rfl

/-- Either events happen, or no state changes and nothing is noticed or counted. -/
theorem Plot.unfolds_or_still {a : Action} (hp : Plot g a g') :
    (∃ events, Unfolds g events g' ∧ (events.map Prod.fst).Nodup ∧
      (∀ n, (n, .failing) ∈ events → a.canFail n) ∧ ∀ n, (n, .closing) ∈ events → a = .close n) ∨
    ((∀ k, g.changeOf g' k = []) ∧ g'.log.drop g.log.length = [] ∧
      g'.metrics.failures = g.metrics.failures) := by
  cases hp with
  | unfolds hu honce hfailing hclosing => exact .inl ⟨_, hu, honce, hfailing, hclosing⟩
  | restock hr hlog hfailures =>
    refine .inr ⟨fun k => ?_, by rw [hlog, List.drop_length], hfailures⟩
    cases hk : g.state? k with
    | none => rw [Gateway.changeOf, hk]
    | some s =>
      obtain ⟨t, ht, -⟩ := exists_stand? hk
      rcases hr.state? (lt_of_stand? ht) with hsame | hgone
      · exact changeOf_of_same hsame
      · exact changeOf_of_none hgone
  | setting hkind h =>
    refine .inr ⟨fun k => changeOf_of_same ?_, ?_, ?_⟩
    · rw [h, state?_setting hkind]
    · rw [h, (setting_perform g hkind).log, List.drop_length]
    · rw [h, (setting_perform g hkind).metrics]
  | forget _ h =>
    refine .inr ⟨fun k => changeOf_of_same ?_, ?_, ?_⟩
    · rw [h]
      rfl
    · rw [h]
      exact List.drop_nil
    · rw [h]
      rfl

theorem Plot.told {a : Action} (hp : Plot g a g') : ∃ places, Told g g' places := by
  rcases hp.unfolds_or_still with ⟨events, hu, honce, -, -⟩ | ⟨hsame, hlog, -⟩
  · exact ⟨_, hu.told honce⟩
  · exact ⟨[], List.nodup_nil, fun k => by simp [hsame], fun name => by rw [hlog]; rfl⟩

/-! ## One listener -/

/-- Of all listeners only one has its name, and it watches a connection with a number. -/
structure Watched (g : Gateway) (handle : Nat) (l : Listener) (id : UInt32) : Prop where
  only : ∀ k w, g.watch? k = some w →
    w.listeners.filter (·.name = l.name) = if k = handle then [l] else []
  id : ∀ w, g.watch? handle = some w → w.id = id
  placed : handle < g.connections.length

/-- If of all different places only one counts, it does not matter what the others are. -/
theorem flatMap_eq_of_nodup {α : Type} {places : List Nat} {f : Nat → List α} {x : Nat}
    (hnodup : places.Nodup) (hothers : ∀ k, k ≠ x → f k = []) (hx : x ∉ places → f x = []) :
    places.flatMap f = f x := by
  induction places with
  | nil => exact (hx List.not_mem_nil).symm
  | cons k rest ih =>
    obtain ⟨hk, hrest⟩ := List.nodup_cons.1 hnodup
    rw [List.flatMap_cons]
    by_cases hkx : k = x
    · subst hkx
      have hnothing : rest.flatMap f = [] := List.flatMap_eq_nil_iff.2 fun j hj =>
        hothers j (by rintro rfl; exact hk hj)
      rw [hnothing, List.append_nil]
    · rw [hothers k hkx, List.nil_append]
      exact ih hrest fun hnot => hx (by simp [hnot, Ne.symm hkx])

namespace Watched

/-- Listeners of other names do not matter. -/
theorem of_watch? (h : Watched g handle l id) (hplaces : handle < g'.connections.length)
    (hwatch : ∀ k w, g'.watch? k = some w → ∃ w₀, g.watch? k = some w₀ ∧ w.id = w₀.id ∧
      w.listeners.filter (·.name = l.name) = w₀.listeners.filter (·.name = l.name)) :
    Watched g' handle l id where
  only := by
    intro k w hw
    obtain ⟨w₀, hw₀, -, hlisteners⟩ := hwatch k w hw
    rw [hlisteners]
    exact h.only k w₀ hw₀
  id := by
    intro w hw
    obtain ⟨w₀, hw₀, hid, -⟩ := hwatch handle w hw
    rw [hid]
    exact h.id w₀ hw₀
  placed := hplaces

theorem unfolds (h : Watched g handle l id) {events : List (Nat × StateEvent)}
    (hu : Unfolds g events g') (honce : (events.map Prod.fst).Nodup)
    (hplaces : handle < g'.connections.length) : Watched g' handle l id := by
  refine h.of_watch? hplaces fun k w hw => ?_
  rcases hu.watch? honce k with ⟨-, hsame⟩ | ⟨event, w₀, -, hw₀, -, hafter⟩
  · exact ⟨w, hsame ▸ hw, rfl, rfl⟩
  · rw [hafter] at hw
    obtain rfl := Option.some.inj hw
    exact ⟨w₀, hw₀, rfl, rfl⟩

theorem restocked (h : Watched g handle l id) {a : Action} (ha : a.keeps handle l)
    (hr : Restocked g a g') (hplaces : handle < g'.connections.length) :
    Watched g' handle l id where
  only := by
    intro k w hw
    by_cases hk : k < g.connections.length
    · rcases hr.watch? hk with hsame | hnone | ⟨rfl, hdetached⟩
      · exact h.only k w (hsame ▸ hw)
      · rw [hnone] at hw
        cases hw
      · have hne : k ≠ handle := ha
        rw [hdetached, Option.map_eq_some_iff] at hw
        obtain ⟨w₀, -, rfl⟩ := hw
        rw [if_neg hne]
        rfl
    · have hne : k ≠ handle := by
        have := h.placed
        omega
      rw [(hr.watch?_new (by omega) hw).1, if_neg hne]
      rfl
  id := by
    intro w hw
    rcases hr.watch? h.placed with hsame | hnone | ⟨-, hdetached⟩
    · exact h.id w (hsame ▸ hw)
    · rw [hnone] at hw
      cases hw
    · rw [hdetached, Option.map_eq_some_iff] at hw
      obtain ⟨w₀, hw₀, rfl⟩ := hw
      exact h.id w₀ hw₀
  placed := hplaces

theorem setting (h : Watched g handle l id) {a : Action} (ha : a.keeps handle l)
    (hk : a.kind = .setting) : Watched (g.perform a) handle l id := by
  have hplaces := (SameStanding.of_setting (g := g) hk).places
  refine h.of_watch? (hplaces ▸ h.placed) fun k w hw => ?_
  rw [watch?_setting hk] at hw
  cases a with
  | addListener x other =>
    simp only at hw
    split at hw
    · obtain ⟨w₀, hw₀, rfl⟩ := Option.map_eq_some_iff.1 hw
      have hother : ¬other.name = l.name := ha
      exact ⟨w₀, hw₀, rfl, by simp [List.filter_append, hother]⟩
    · exact ⟨w, hw, rfl, rfl⟩
  | removeListener x key =>
    simp only at hw
    split at hw
    · rename_i hkx
      obtain ⟨w₀, hw₀, rfl⟩ := Option.map_eq_some_iff.1 hw
      refine ⟨w₀, hw₀, rfl, ?_⟩
      -- What is taken off is not the listener.
      have honly := h.only k w₀ hw₀
      have hstays : (w₀.listeners.filter (·.name = l.name)).filter (·.key ≠ key) =
          w₀.listeners.filter (·.name = l.name) := by
        rw [honly]
        split
        · rename_i hkh
          have hne : l.key ≠ key := Ne.symm (ha (hkx ▸ hkh))
          simp [hne]
        · rfl
      rw [← hstays, List.filter_filter, List.filter_filter]
      exact List.filter_congr fun _ _ => Bool.and_comm _ _
    · exact ⟨w, hw, rfl, rfl⟩
  | setFailureListener x other =>
    simp only at hw
    split at hw
    · obtain ⟨w₀, hw₀, rfl⟩ := Option.map_eq_some_iff.1 hw
      exact ⟨w₀, hw₀, rfl, rfl⟩
    · exact ⟨w, hw, rfl, rfl⟩
  | _ => exact ⟨w, hw, rfl, rfl⟩

theorem perform (h : Watched g handle l id) {a : Action} (hp : Plot g a (g.perform a))
    (ha : a.keeps handle l) : Watched (g.perform a) handle l id := by
  have hplaces : handle < (g.perform a).connections.length :=
    Nat.lt_of_lt_of_le h.placed (KeepsPlaces.perform g a).connections
  cases hp with
  | unfolds hu honce _ _ => exact h.unfolds hu honce hplaces
  | restock hr _ => exact h.restocked ha hr hplaces
  | setting hk _ => exact h.setting ha hk
  | forget _ hforget =>
    rw [hforget] at hplaces ⊢
    exact h.of_watch? hplaces fun k w hw => ⟨w, hw, rfl, rfl⟩

theorem tidings_eq_nil (h : Watched g handle l id) (hne : k ≠ handle)
    (change : ConnectionState × ConnectionState) : g.tidings l.name k change = [] := by
  rw [tidings]
  cases hw : g.watch? k with
  | none => rfl
  | some w => simp [h.only k w hw, hne]

/-- What the listener is told is the change of the state. -/
theorem heard (h : Watched g handle l id) {places : List Nat} (ht : Told g g' places) :
    (g'.log.drop g.log.length).filter (Event.tells l.name) =
      (g.changeOf g' handle).map fun c => .transition l.name id c.1 c.2 := by
  have hothers (k : Nat) (hne : k ≠ handle) :
      (g.changeOf g' k).flatMap (g.tidings l.name k) = [] :=
    List.flatMap_eq_nil_iff.2 fun change _ => h.tidings_eq_nil hne change
  have hunchanged (hnot : handle ∉ places) :
      (g.changeOf g' handle).flatMap (g.tidings l.name handle) = [] := by
    rw [ht.mem, not_not] at hnot
    rw [hnot, List.flatMap_nil]
  rw [ht.told, flatMap_eq_of_nodup ht.nodup hothers hunchanged]
  cases hw : g.watch? handle with
  | none =>
    have hnone : g.changeOf g' handle = [] := by rw [changeOf, state?_eq_watch?, hw]; rfl
    rw [hnone]
    rfl
  | some w =>
    have htidings : g.tidings l.name handle =
        fun c => [Event.transition l.name id c.1 c.2] := by
      funext c
      simp [tidings, hw, h.only handle w hw, h.id w hw]
    rw [htidings]
    exact List.flatMap_pure_eq_map _ _

/-- By induction on the actions. -/
theorem heard_run (h : Watched g handle l id) (hs : g.Steady) {actions : List Action}
    (hp : g.Throughout Proper actions) (ha : ∀ a ∈ actions, a.keeps handle l) :
    (g.noticed actions).filter (Event.tells l.name) =
      (g.history handle actions).map fun c => .transition l.name id c.1 c.2 := by
  induction actions generalizing g with
  | nil => rfl
  | cons a rest ih =>
    have hplot : Plot g a (g.perform a) := (hs.effect hp.1).plot
    obtain ⟨places, htold⟩ := hplot.told
    have hrest := ih (h.perform hplot (ha a List.mem_cons_self)) (hs.perform hp.1) hp.2
      fun b hb => ha b (List.mem_cons_of_mem a hb)
    rw [noticed, history, List.filter_append, List.map_append, noticedOf, h.heard htold, hrest]

end Watched

/-! ## The history is a path -/

/-- A place that was given up stays empty. -/
theorem Plot.state?_none {a : Action} (hp : Plot g a g') (hk : k < g.connections.length)
    (hnone : g.state? k = none) : g'.state? k = none := by
  cases hp with
  | unfolds hu honce _ _ =>
    rcases hu.watch? honce k with ⟨-, hsame⟩ | ⟨event, w, -, hw, -⟩
    · rw [state?_of_watch? hsame, hnone]
    · rw [state?_eq_watch?, hw] at hnone
      cases hnone
  | restock hr _ =>
    rcases hr.state? hk with hsame | hgone
    · rw [hsame, hnone]
    · exact hgone
  | setting hkind h => rw [h, state?_setting hkind, hnone]
  | forget _ h => rw [h]; exact hnone

/-- A connection stays where it is, follows the transition table, or is gone. -/
theorem Plot.changeOf {a : Action} (hp : Plot g a g') (hk : k < g.connections.length)
    {s : ConnectionState} (hs : g.state? k = some s) :
    (g.changeOf g' k = [] ∧ (g'.state? k = some s ∨ g'.state? k = none)) ∨
      ∃ event, s.on event = .next event.target ∧ g.changeOf g' k = [(s, event.target)] ∧
        g'.state? k = some event.target := by
  have hsame (h : g'.state? k = g.state? k) :
      g.changeOf g' k = [] ∧ (g'.state? k = some s ∨ g'.state? k = none) :=
    ⟨changeOf_of_same h, .inl (h.trans hs)⟩
  cases hp with
  | unfolds hu honce _ _ =>
    rcases hu.watch? honce k with ⟨-, h⟩ | ⟨event, w, -, hw, hallowed, hafter⟩
    · exact .inl (hsame (state?_of_watch? h))
    · obtain rfl : w.state = s := by
        rw [state?_eq_watch?, hw] at hs
        exact Option.some.inj hs
      refine .inr ⟨event, hallowed, changeOf_of_event hw hallowed hafter, ?_⟩
      rw [state?_eq_watch?, hafter]
      rfl
  | restock hr _ =>
    rcases hr.state? hk with h | hgone
    · exact .inl (hsame h)
    · exact .inl ⟨changeOf_of_none hgone, .inr hgone⟩
  | setting hkind h => exact .inl (hsame (by rw [h, state?_setting hkind]))
  | forget _ h => exact .inl (hsame (by rw [h]; rfl))

/-- The history of a connection that is gone is over. -/
theorem history_of_none (hs : g.Steady) (hk : k < g.connections.length) (hnone : g.state? k = none)
    {actions : List Action} (hp : g.Throughout Proper actions) : g.history k actions = [] := by
  induction actions generalizing g with
  | nil => rfl
  | cons a rest ih =>
    have hgone := (hs.effect hp.1).plot.state?_none hk hnone
    have hplace := Nat.lt_of_lt_of_le hk (KeepsPlaces.perform g a).connections
    rw [history, changeOf_of_none hgone, ih (hs.perform hp.1) hplace hgone hp.2]
    rfl

/-- The history of a connection is a path of the transition table, by induction on the actions. -/
theorem isPath_history (hs : g.Steady) (hk : k < g.connections.length) {s : ConnectionState}
    (hstate : g.state? k = some s) {actions : List Action} (hp : g.Throughout Proper actions) :
    s.IsPath (g.history k actions) := by
  induction actions generalizing g s with
  | nil => trivial
  | cons a rest ih =>
    have hplace := Nat.lt_of_lt_of_le hk (KeepsPlaces.perform g a).connections
    rcases (hs.effect hp.1).plot.changeOf hk hstate with ⟨hnothing, hstays | hgone⟩ |
      ⟨event, hallowed, hchange, hstays⟩
    · rw [history, hnothing]
      exact ih (hs.perform hp.1) hplace hstays hp.2
    · rw [history, hnothing, history_of_none (hs.perform hp.1) hplace hgone hp.2]
      trivial
    · rw [history, hchange]
      exact ⟨rfl, ⟨event, hallowed⟩, ih (hs.perform hp.1) hplace hstays hp.2⟩

/-! ## From the start -/

/-- Whether somebody of a name listens to a connection. -/
def hasListener (g : Gateway) (name : String) (handle : Nat) : Bool :=
  (g.watch? handle).any fun w => w.listeners.any (·.name = name)

/-- A new listener of a new name is the only one of its name. -/
theorem watched_addListener (hstate : (g.watch? handle).map Watch.id = some id)
    (hnew : ∀ k < g.connections.length, g.hasListener l.name k = false) :
    Watched (g.perform (.addListener handle l)) handle l id := by
  have hnone (k : Nat) (w : Watch) (hw : g.watch? k = some w) :
      w.listeners.filter (·.name = l.name) = [] := by
    have hno := hnew k (lt_of_watch? hw)
    rw [hasListener, hw, Option.any_some, List.any_eq_false] at hno
    exact List.filter_eq_nil_iff.2 hno
  have hwatch (k : Nat) : (g.perform (.addListener handle l)).watch? k = if k = handle then
      (g.watch? k).map fun w => { w with listeners := w.listeners ++ [l] } else g.watch? k :=
    watch?_setting (a := .addListener handle l) rfl k
  refine ⟨fun k w hw => ?_, fun w hw => ?_, ?_⟩
  · rw [hwatch] at hw
    by_cases hk : k = handle
    · rw [if_pos hk, Option.map_eq_some_iff] at hw
      obtain ⟨w₀, hw₀, rfl⟩ := hw
      simp [hnone k w₀ hw₀, hk]
    · rw [if_neg hk] at hw
      rw [hnone k w hw, if_neg hk]
  · rw [hwatch, if_pos rfl, Option.map_eq_some_iff] at hw
    obtain ⟨w₀, hw₀, rfl⟩ := hw
    rw [hw₀] at hstate
    exact Option.some.inj hstate
  · obtain ⟨w, hw, -⟩ := Option.map_eq_some_iff.1 hstate
    have hplaces := (KeepsPlaces.perform g (.addListener handle l)).connections
    exact Nat.lt_of_lt_of_le (lt_of_watch? hw) hplaces

end Gateway

end MediaGateway
