import PassForge.Device.Event

/-!
# Update handlers

A handler belongs to a buffer or texture and is asked at both synchronisation points of a pass which
writes to make. What it answers may depend on all the times it has been asked before.

`Handler.scripted` answers from two lists, one for each point.
-/

namespace PassForge

/-- A source of host-side writes of type `ω`. -/
structure Handler (ω : Type) where
  /-- The writes to make, given the points of the earlier calls and of this one; nothing if there is
  no change. -/
  reply : List SyncPoint → SyncPoint → Option (List ω)
  /-- The points of the calls so far, oldest first. -/
  calls : List SyncPoint := []

namespace Handler

variable {ω : Type}

/-- How often the handler has been called at a point. -/
def callsAt (h : Handler ω) (p : SyncPoint) : Nat := h.calls.count p

/-- The writes that a call at a point asks for. -/
def ask (h : Handler ω) (p : SyncPoint) : List ω := (h.reply h.calls p).getD []

/-- The handler after a call at a point. -/
def called (h : Handler ω) (p : SyncPoint) : Handler ω := { h with calls := h.calls ++ [p] }

/-- The handler whose `n`-th call at a point answers with the `n`-th entry of that point's list, and
which changes nothing past its end. -/
def scripted (before after : List (Option (List ω))) : Handler ω where
  reply earlier p :=
    let script := match p with
      | .before => before
      | .after => after
    (script[earlier.count p]?).join

end Handler

end PassForge
