/-!
# What foreign code does

Hooks, listeners and endpoints belong to others. Code of others may do its work, refuse it with a
reason, or break off. A notification only asks whether the work was done: the connection that sends
it goes on in any case.
-/

namespace MediaGateway

/-- How a call of foreign code ends. -/
inductive Outcome where
  /-- The work is done. -/
  | done
  /-- The work was refused. -/
  | refused (reason : String)
  /-- The code broke off. -/
  | panicked (reason : String)
deriving DecidableEq, Repr, Inhabited

/-- Whether the work is done; neither a refusal nor breaking off is passed on. -/
def Outcome.guarded : Outcome → Bool
  | done => true
  | refused _ => false
  | panicked _ => false

/-- Goes on with what a call of foreign code left behind, however it ended. Says whether the work is
done. -/
def dispatchGuarded {σ : Type} (call : Outcome × σ) : Bool × σ :=
  (call.1.guarded, call.2)

@[simp] theorem dispatchGuarded_snd {σ : Type} (call : Outcome × σ) :
    (dispatchGuarded call).2 = call.2 :=
  rfl

end MediaGateway
