import Mathlib
import PassForge.Proofs.History

/-!
# What creating a resource does

A call that creates a resource either registers one object or leaves every store as it is, and it
leaves the device alone: the device objects of a resource are made when they are first asked for.

* `Context.Gains` says that one object is registered and nothing else is.
* `Creation.claim` is the id that a call takes, with the context after taking it, and
  `Creation.run_cases` the three ways in which the call goes on from there.
* `Creation.reported_of_make`: whatever a constructor makes reports the id that it was made for.
* `creation_spec`: creating a resource is atomic and lazy.
-/

namespace PassForge

/-- Registering under an id that is not taken adds one entry. -/
theorem Store.size_insert {α : Type} {s : Store α} {id : ResourceId} {a : α} (h : id ∉ s.ids) :
    (s.insert id a).size = s.size + 1 := by
  have hnodup : (id :: s.ids).Nodup := List.nodup_cons.2 ⟨h, nodup_ids⟩
  have hperm : (s.insert id a).ids.Perm (id :: s.ids) := by
    refine (List.perm_ext_iff_of_nodup nodup_ids hnodup).2 fun id' => ?_
    rw [mem_ids_insert, List.mem_cons]
  calc (s.insert id a).size
      = (s.insert id a).ids.length := length_ids.symm
    _ = s.ids.length + 1 := hperm.length_eq
    _ = s.size + 1 := by rw [length_ids]

theorem DepthAttachment.create_eq_ok {t : Texture} {desc : DepthAttachmentDesc} {id : ResourceId}
    {a : DepthAttachment} (h : create t desc id = .ok a) : a.id = id ∧ t.format.isDepthStencil := by
  unfold create at h
  split at h
  · next hf =>
    cases h
    exact ⟨rfl, hf⟩
  · cases h

/-! ## Registering one object -/

/-- The id that an object reports as its own. Pipelines report none. -/
def Registry.reported : (r : Registry) → r.Object → Option ResourceId
  | buffers, b => some (Buffer.id b)
  | textures, t => some (Texture.id t)
  | samplers, s => some (Sampler.id s)
  | shaders, s => some (Shader.id s)
  | colorAttachments, a => some (ColorAttachment.id a)
  | depthAttachments, a => some (DepthAttachment.id a)
  | pipelines, _ => none

/-- One object is registered in one store, under an id that was not taken there: the other entries
of that store and all the other stores are as they were. -/
structure Context.Gains (r : Registry) (id : ResourceId) (a : r.Object) (c c' : Context) : Prop where
  vacant : id ∉ c.ids r
  found : (r.shelf.get c').get? id = some a
  size : (r.shelf.get c').size = (r.shelf.get c).size + 1
  kept : ∀ id' ≠ id, (r.shelf.get c').get? id' = (r.shelf.get c).get? id'
  others : ∀ r' ≠ r, r'.shelf.get c' = r'.shelf.get c

theorem Context.gains_insert {r : Registry} {id : ResourceId} (a : r.Object) {c : Context}
    (h : id ∉ c.ids r) : c.Gains r id a (r.shelf.set ((r.shelf.get c).insert id a) c) where
  vacant := h
  found := by rw [Shelf.Lawful.get_set, Store.get?_insert, if_pos rfl]
  size := by rw [Shelf.Lawful.get_set, Store.size_insert h]
  kept id' hne := by rw [Shelf.Lawful.get_set, Store.get?_insert, if_neg hne]
  others r' hne := Registry.get_set_of_ne hne _ c

/-- Only the stores count. -/
theorem Context.Gains.of_get {r : Registry} {id : ResourceId} {a : r.Object} {c c₁ c' : Context}
    (hget : ∀ r : Registry, r.shelf.get c₁ = r.shelf.get c) (h : c₁.Gains r id a c') :
    c.Gains r id a c' where
  vacant := by
    have hvacant := h.vacant
    unfold Context.ids at hvacant ⊢
    rwa [hget r] at hvacant
  found := h.found
  size := by rw [h.size, hget r]
  kept id' hne := by rw [h.kept id' hne, hget r]
  others r' hne := by rw [h.others r' hne, hget r']

namespace Creation

variable {c c' : Context} {id : ResourceId}

/-! ## What is made -/

/-- Whatever a constructor makes reports the id that it was made for. -/
theorem reported_of_make (k : Creation) {a : k.registry.Object} (h : k.make c id = .ok a) :
    k.registry.reported a = some id := by
  cases k with
  | buffer kind desc => exact congrArg some (Buffer.create_eq_ok h).1
  | texture2d desc | storageTexture2d desc | texture2dArray layers desc | textureCube desc =>
    exact congrArg some (Texture.create_eq_ok h).1
  | surfaceTexture wanted | sampler kind desc | shader stage desc | colorAttachment desc =>
    cases h
    rfl
  | depthAttachment desc =>
    obtain ⟨t, -, h⟩ := bind_eq_ok_iff.1 h
    exact congrArg some (DepthAttachment.create_eq_ok h).1

/-! ## How a call goes -/

/-- The id that a call takes, and the context after taking it. -/
def claim (k : Creation) (c : Context) : ResourceId × Context :=
  match k.wanted with
  | some id => (id, c)
  | none => c.mint

theorem takeId_eq (k : Creation) (c : Context) :
    (Work.takeId k.wanted : Work ResourceError ResourceId) c = .ok (k.claim c).1 (k.claim c).2 := by
  unfold claim
  cases k.wanted <;> rfl

/-- Taking an id leaves the stores. -/
theorem get_claim (k : Creation) (c : Context) (r : Registry) :
    r.shelf.get (k.claim c).2 = r.shelf.get c := by
  unfold claim
  cases k.wanted with
  | some id => rfl
  | none => cases r <;> rfl

/-- A constructor looks at nothing that taking an id changes. -/
theorem make_claim (k : Creation) (c : Context) (id : ResourceId) :
    k.make (k.claim c).2 id = k.make c id := by
  unfold claim
  cases k.wanted with
  | some id => rfl
  | none => cases k <;> rfl

/-- Once a call has its id, it registers what its constructor makes, unless there is an object under
the id. -/
theorem run_apply (k : Creation) (c : Context) : k.run c =
    ((liftM ((k.registry.shelf.get (k.claim c).2).obtain (k.claim c).1 (k.make (k.claim c).2)) :
      Work ResourceError (k.registry.Object × Store k.registry.Object)) >>= fun r => do
        modify (k.registry.shelf.set r.2)
        return (k.claim c).1) (k.claim c).2 := by
  rw [k.run_eq]
  unfold Work.register
  rw [bind_of_ok (k.takeId_eq c), context_bind]

/-- A call finds an object under its id, or its constructor fails, or it registers what its
constructor has made. -/
theorem run_cases (k : Creation) (c : Context) :
    ((k.claim c).1 ∈ c.ids k.registry ∧ k.run c = .ok (k.claim c).1 (k.claim c).2) ∨
    ((k.claim c).1 ∉ c.ids k.registry ∧ ∃ e, k.make c (k.claim c).1 = .error e ∧
      k.run c = .error e (k.claim c).2) ∨
    ((k.claim c).1 ∉ c.ids k.registry ∧ ∃ a, k.make c (k.claim c).1 = .ok a ∧
      k.run c = .ok (k.claim c).1 (k.registry.shelf.set
        ((k.registry.shelf.get (k.claim c).2).insert (k.claim c).1 a) (k.claim c).2)) := by
  have hids : (k.claim c).1 ∈ c.ids k.registry ↔
      ∃ a, (k.registry.shelf.get (k.claim c).2).get? (k.claim c).1 = some a := by
    rw [k.get_claim, ← Store.mem_ids_iff]
    rfl
  rw [run_apply]
  unfold Store.obtain
  cases hget : (k.registry.shelf.get (k.claim c).2).get? (k.claim c).1 with
  | some a =>
    refine .inl ⟨hids.2 ⟨a, hget⟩, ?_⟩
    show EStateM.Result.ok _ (k.registry.shelf.set (k.registry.shelf.get _) _) = _
    rw [Shelf.Lawful.set_get]
  | none =>
    have hvacant : (k.claim c).1 ∉ c.ids k.registry := by
      rw [hids, hget]
      exact fun ⟨a, ha⟩ => nomatch ha
    refine .inr ?_
    cases hmake : k.make c (k.claim c).1 with
    | error e =>
      refine .inl ⟨hvacant, e, rfl, ?_⟩
      dsimp only
      rw [k.make_claim, hmake]
      rfl
    | ok a =>
      refine .inr ⟨hvacant, a, rfl, ?_⟩
      dsimp only
      rw [k.make_claim, hmake]
      rfl

/-- Whatever a call does, it does nothing to the device and takes a new id only if it asks for
none. -/
theorem after_run (k : Creation) (c : Context) : (after k.run c).device = c.device ∧
    (after k.run c).nextId = c.nextId + if k.wanted = none then 1 else 0 := by
  have hclaim : (k.claim c).2.device = c.device ∧
      (k.claim c).2.nextId = c.nextId + if k.wanted = none then 1 else 0 := by
    unfold claim
    cases k.wanted <;> exact ⟨rfl, rfl⟩
  obtain ⟨-, hrun⟩ | ⟨-, e, -, hrun⟩ | ⟨-, a, -, hrun⟩ := k.run_cases c
  · rwa [after_ok hrun]
  · rwa [after_error hrun]
  · rw [after_ok hrun]
    cases k <;> exact hclaim

end Creation

/-- **Creating a resource is atomic and lazy.** In every context, whatever the call:

* the device is as it was, so nothing is made on it and nothing written to it;
* the next id moves on by one if the call asks for no id, and stays otherwise, even if the call fails;
* a call that fails leaves every store as it was;
* a call that succeeds gives the id that it asks for, or else the next one. If there was an object
  under that id, every store is as it was; otherwise one object, which the constructor has made and
  which reports that id, is registered under it in the store of its kind, and nothing else changes. -/
theorem creation_spec (k : Creation) (c : Context) :
    (after k.run c).device = c.device ∧
    (after k.run c).nextId = c.nextId + (if k.wanted = none then 1 else 0) ∧
    (∀ e c', k.run c = .error e c' → ∀ r : Registry, r.shelf.get c' = r.shelf.get c) ∧
    ∀ id c', k.run c = .ok id c' → id = k.wanted.getD ⟨c.nextId⟩ ∧
      ((id ∈ c.ids k.registry ∧ ∀ r : Registry, r.shelf.get c' = r.shelf.get c) ∨
        ∃ a, k.make c id = .ok a ∧ k.registry.reported a = some id ∧
          c.Gains k.registry id a c') := by
  obtain ⟨hdevice, hnext⟩ := k.after_run c
  have hid : (k.claim c).1 = k.wanted.getD ⟨c.nextId⟩ := by
    unfold Creation.claim
    cases k.wanted <;> rfl
  refine ⟨hdevice, hnext, fun e c' h => ?_, fun id c' h => ?_⟩
  · obtain ⟨-, hrun⟩ | ⟨-, e', -, hrun⟩ | ⟨-, a, -, hrun⟩ := k.run_cases c
    · exact nomatch hrun.symm.trans h
    · cases hrun.symm.trans h
      exact k.get_claim c
    · exact nomatch hrun.symm.trans h
  · obtain ⟨hold, hrun⟩ | ⟨-, e', -, hrun⟩ | ⟨hvacant, a, ha, hrun⟩ := k.run_cases c
    · cases hrun.symm.trans h
      exact ⟨hid, .inl ⟨hold, k.get_claim c⟩⟩
    · exact nomatch hrun.symm.trans h
    · cases hrun.symm.trans h
      refine ⟨hid, .inr ⟨a, ha, k.reported_of_make ha, .of_get (k.get_claim c) ?_⟩⟩
      refine Context.gains_insert a ?_
      unfold Context.ids at hvacant ⊢
      rwa [k.get_claim]

namespace FirstTexture

/-- A context that holds a texture, with the next id 2. -/
def context : Context := after (Work.createTexture2d { width := 4, height := 4 }) { device := .start {} }

/-- Another texture under a new id. -/
def created : Creation := .texture2d { width := 8, height := 8 }

/-- A texture without pixels, which cannot be made. -/
def refused : Creation := .texture2d { width := 0, height := 8 }

end FirstTexture

/-- The other texture is registered under the id 2, and the one without pixels is not, which takes the
id 2 all the same. -/
theorem creation_firstTexture :
    (∃ c' a, FirstTexture.created.run FirstTexture.context = .ok ⟨2⟩ c' ∧
      FirstTexture.context.Gains .textures ⟨2⟩ a c' ∧ c'.nextId = 3) ∧
    ∃ e c', FirstTexture.refused.run FirstTexture.context = .error e c' ∧
      (∀ r : Registry, r.shelf.get c' = r.shelf.get FirstTexture.context) ∧ c'.nextId = 3 := by
  have hnext : FirstTexture.context.nextId = 2 := by decide +kernel
  have hvacant : (⟨2⟩ : ResourceId) ∉ FirstTexture.context.ids .textures := by decide +kernel
  have hcreated : outcome FirstTexture.created.run FirstTexture.context = .ok ⟨2⟩ := by
    decide +kernel
  have hrefused : outcome FirstTexture.refused.run FirstTexture.context =
      .error (.zeroSize "texture" ⟨2⟩) := by decide +kernel
  obtain ⟨-, hnextCreated, -, hok⟩ := creation_spec FirstTexture.created FirstTexture.context
  obtain ⟨-, hnextRefused, herror, -⟩ := creation_spec FirstTexture.refused FirstTexture.context
  rw [hnext] at hnextCreated hnextRefused
  have hrun := eq_ok_of_outcome hcreated
  obtain ⟨-, ⟨hold, -⟩ | ⟨a, -, -, hgains⟩⟩ := hok _ _ hrun
  · exact absurd hold hvacant
  · have hrun' := eq_error_of_outcome hrefused
    exact ⟨⟨_, a, hrun, hgains, hnextCreated⟩, _, _, hrun', herror _ _ hrun', hnextRefused⟩

end PassForge
