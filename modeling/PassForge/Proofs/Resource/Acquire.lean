import PassForge.Proofs.Resource.Buffer
import PassForge.Proofs.Resource.Texture

/-!
# One call for each synchronisation

Bringing a buffer or a texture up to date calls its handler exactly once, whatever the handler asks
for.

* `Handler.calledTimes` is a handler after some calls at one point of a pass.
* `Buffer.acquire_handler`, `Texture.acquire_handler`: what bringing a resource up to date leaves of its
  handler. Nothing else that it does touches the handler.
-/

namespace PassForge

namespace Handler

variable {ω : Type} {h : Handler ω} {p : SyncPoint}

/-- The handler after some calls at a point. -/
def calledTimes (h : Handler ω) (p : SyncPoint) (n : Nat) : Handler ω :=
  { h with calls := h.calls ++ List.replicate n p }

@[simp]
theorem calledTimes_zero : h.calledTimes p 0 = h := by
  rw [calledTimes, List.replicate_zero, List.append_nil]

@[simp]
theorem calledTimes_calledTimes (m n : Nat) :
    (h.calledTimes p m).calledTimes p n = h.calledTimes p (m + n) := by
  rw [calledTimes, calledTimes, calledTimes, List.append_assoc, List.replicate_add]

end Handler

namespace Buffer

variable {l l' : Live Buffer} {p : SyncPoint}

/-- Two states of a buffer with the same handler. -/
def SameHandler (l l' : Live Buffer) : Prop := l'.object.handler = l.object.handler

theorem handle_sameHandler : Runs SameHandler handle := fun l => by
  obtain ⟨serial, l', h⟩ := exists_handle_eq_ok l
  refine .of_after (after_ok h) (.single ?_)
  obtain ⟨-, rfl | ⟨-, rfl⟩⟩ := handle_eq_ok h <;> rfl

theorem staging_sameHandler : Runs SameHandler staging := fun l => by
  unfold staging
  refine .object (.check fun _ => ?_)
  cases l.object.stage with
  | some s => exact .refl
  | none => exact .single rfl

theorem write_sameHandler (w : BufferWrite) : Runs SameHandler (write w) := fun l => by
  unfold write
  exact .object (.checkExcept fun _ _ => (handle_sameHandler l).bind fun _ _ _ => .log rfl)

theorem askHandler_eq_ok {writes : List BufferWrite} (h : askHandler p l = .ok writes l') :
    l'.object.handler = l.object.handler.map (Handler.calledTimes · p 1) := by
  unfold askHandler at h
  rw [Action.object_bind] at h
  cases hh : l.object.handler with
  | none =>
    rw [hh] at h
    cases h
    exact hh
  | some handler =>
    rw [hh] at h
    cases h
    rfl

/-- **Bringing a buffer up to date calls its handler once.** -/
theorem acquire_handler (h : acquire p l = .ok () l') :
    l'.object.handler = l.object.handler.map (Handler.calledTimes · p 1) := by
  obtain ⟨serial, l₁, hhandle, h⟩ := bind_eq_ok h
  obtain ⟨writes, l₂, hask, h⟩ := bind_eq_ok h
  have hfirst : l₁.object.handler = l.object.handler :=
    after_ok hhandle ▸ Runs.eq (f := fun l => l.object.handler) handle_sameHandler l
  refine Eq.trans ?_ (hfirst ▸ askHandler_eq_ok hask)
  refine after_ok h ▸ Runs.eq (f := fun l => l.object.handler) ?_ l₂
  refine (Runs.forM write_sameHandler writes).bind fun _ l => .object ?_
  split
  · exact (staging_sameHandler l).bind fun _ l _ => (handle_sameHandler l).bind fun _ _ _ => .log rfl
  · exact .refl

end Buffer

namespace Texture

variable {l l' : Live Texture} {p : SyncPoint}

theorem askHandler_eq_ok {writes : List TextureWrite} (h : askHandler p l = .ok writes l') :
    l'.object.handler = l.object.handler.map (Handler.calledTimes · p 1) := by
  unfold askHandler at h
  rw [Action.object_bind] at h
  cases hh : l.object.handler with
  | none =>
    rw [hh] at h
    cases h
    exact hh
  | some handler =>
    rw [hh] at h
    cases h
    rfl

/-- A write leaves the texture as it is. -/
theorem write_object (serial : Nat) (w : TextureWrite) :
    Runs (fun l l' => l'.object = l.object) (write serial w) := fun l => by
  unfold write
  exact .object (.check fun _ => .check fun _ => .log rfl)

/-- **Bringing a texture up to date calls its handler once.** -/
theorem acquire_handler (h : acquire p l = .ok () l') :
    l'.object.handler = l.object.handler.map (Handler.calledTimes · p 1) := by
  obtain ⟨serial, l₁, hhandle, h⟩ := bind_eq_ok h
  obtain ⟨writes, l₂, hask, h⟩ := bind_eq_ok h
  have hfirst : l₁.object.handler = l.object.handler := by
    obtain ⟨-, rfl | ⟨-, -, rfl⟩⟩ := handle_eq_ok hhandle <;> rfl
  have hwrites : l'.object = l₂.object :=
    after_ok h ▸ Runs.eq (f := Live.object) (Runs.forM (write_object serial) writes) l₂
  rw [hwrites, askHandler_eq_ok hask, hfirst]

end Texture

end PassForge
