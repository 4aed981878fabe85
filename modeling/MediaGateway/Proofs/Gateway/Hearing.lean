import MediaGateway.Proofs.Gateway.Failures
import MediaGateway.Proofs.Gateway.Outcomes

/-!
# What those who watch are told

Listeners hear the history of a connection, failure listeners hear of failures only and once, and
nothing depends on how being told ends.
-/

namespace MediaGateway.Gateway

/-- Of every action all listeners to the connections whose states change are told once each, and so
are the failure listeners of the connections that end without being closed; nobody else is told.
A listener that comes to an idle connection hears exactly its history while it stays, and the history
is a path of the transition table. No failure listener is told more often than it is installed. How
being told ends matters neither for what is given back, nor for what others notice, nor for the life
of any connection. What is noticed tells listeners apart by their names. -/
theorem listeners_hear_history (config : GatewayConfig) (environment : Environment)
    {actions : List Action} (hp : (make config environment).Throughout Proper actions) :
    let g₀ := make config environment
    let g := g₀.run actions
    (∀ a, g.Proper a → (∃ places, Told g (g.perform a) places) ∧
      ∃ places, Failed g a (g.perform a) places) ∧
    (∀ handle l id rest, g.state? handle = some .null →
      (g.watch? handle).map Watch.id = some id →
      (∀ k < g.connections.length, g.hasListener l.name k = false) →
      g.Throughout Proper (.addListener handle l :: rest) → (∀ a ∈ rest, a.keeps handle l) →
      let g' := g.perform (.addListener handle l)
      (g'.noticed rest).filter (Event.tells l.name) =
          (g'.history handle rest).map (fun c => .transition l.name id c.1 c.2) ∧
        ConnectionState.null.IsPath (g'.history handle rest)) ∧
    (∀ name, ((g₀.noticed actions).filterMap Event.blamed?).count name ≤
      actions.countP (·.installs name)) ∧
    ∀ others : List Action, others.map Action.mute = actions.map Action.mute →
      g₀.replies others = g₀.replies actions ∧ (g₀.run others).log = g.log ∧
        ∀ k, (g₀.run others).life? k = g.life? k := by
  intro g₀ g
  have hs : g.Steady :=
    ((Steady.make config environment).induction (I := fun _ => True) (fun _ _ _ _ h => h) trivial
      hp).1
  refine ⟨fun a ha => ?_, fun handle l id rest hstate hid hnew hrest hkeeps => ?_, fun name => ?_,
    fun others hothers => agree_of_mute_eq g₀ hothers⟩
  · exact ⟨(hs.effect ha).plot.told, (hs.effect ha).plot.failed⟩
  · have hwatched := watched_addListener hid hnew
    have hs' := hs.perform hrest.1
    refine ⟨hwatched.heard_run hs' hrest.2 hkeeps, isPath_history hs' hwatched.placed ?_ hrest.2⟩
    rw [state?_setting rfl, hstate]
  · have hcount := count_blamed_le (Steady.make config environment) hp name
    have hnone : g₀.installed name = [] := rfl
    rwa [show (make config environment).installed name = [] from hnone, List.length_nil,
      Nat.zero_add] at hcount

/-- Two listeners break off or refuse whenever they are told, and so does the failure listener. Yet
the first one hears of both bindings, the failure listener of the one that fails, and all goes as if
they had succeeded. -/
theorem listeners_hear_history_twoBindings :
    let first : Listener := ⟨1, "first", none, .finish (.panicked "listener")⟩
    let second : Listener := ⟨2, "second", none, .finish (.refused "listener")⟩
    let rest : List Action := [.addListener 0 second,
      .setFailureListener 0 ⟨"warden", .panicked "failure"⟩, .bind 0, .fail 0, .bind 0, .close 0]
    let actions : List Action := .create .internal :: .addListener 0 first :: rest
    let g₀ := make {} .isolated
    let g := (g₀.run [.create .internal]).perform (.addListener 0 first)
    let bound := g.run (rest.take 3)
    (g.noticed rest).filter (Event.tells "first") =
        [.transition "first" 1 .null .halfOpen, .transition "first" 1 .halfOpen .null,
          .transition "first" 1 .null .halfOpen, .transition "first" 1 .halfOpen .null] ∧
      ConnectionState.null.IsPath (g.history 0 rest) ∧
      ((g₀.noticed actions).filterMap Event.blamed?).count "warden" = 1 ∧
      (∃ places, Failed bound (.fail 0) (bound.perform (.fail 0)) places ∧ 0 ∈ places) ∧
      g₀.replies (actions.map Action.mute) = g₀.replies actions ∧
      (g₀.run (actions.map Action.mute)).life? 0 = (g₀.run actions).life? 0 := by
  intro first second rest actions g₀ g bound
  have hp : g₀.Throughout Proper actions := by decide +kernel
  have hcreate : g₀.Throughout Proper [.create .internal] := by decide +kernel
  have hbound : g₀.Throughout Proper (actions.take 5) := by decide +kernel
  obtain ⟨-, -, hcount, houtcomes⟩ := listeners_hear_history {} .isolated hp
  obtain ⟨-, hheard, -⟩ := listeners_hear_history {} .isolated hcreate
  obtain ⟨hhistory, hpath⟩ := hheard 0 first 1 rest (by decide +kernel) (by decide +kernel)
    (by decide +kernel) (by decide +kernel) (by decide +kernel)
  obtain ⟨places, hfailed⟩ :=
    ((listeners_hear_history {} .isolated hbound).1 (.fail 0) (by decide +kernel)).2
  have hends : Ends bound (bound.perform (.fail 0)) 0 :=
    ⟨⟨.halfOpen, by decide +kernel, by decide⟩, by decide +kernel⟩
  obtain ⟨hreplies, -, hlives⟩ := houtcomes (actions.map Action.mute) rfl
  have honce : ((g₀.noticed actions).filterMap Event.blamed?).count "warden" ≤ 1 := hcount "warden"
  have htold : "warden" ∈ (g₀.noticed actions).filterMap Event.blamed? := by decide +kernel
  refine ⟨hhistory.trans (by decide +kernel), hpath, ?_,
    ⟨places, hfailed, (hfailed.mem 0).2 ⟨by simp, hends⟩⟩, hreplies, hlives 0⟩
  exact Nat.le_antisymm honce (List.count_pos_iff.2 htold)

end MediaGateway.Gateway
