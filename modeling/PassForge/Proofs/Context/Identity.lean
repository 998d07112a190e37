import Mathlib.Logic.Relation
import PassForge.Proofs.Context.Spared

/-!
# What becomes of resources

A resource stays under its id, and all that ever happens to it are steps of its own: it is the same
resource in every later context.

* `Becomes` is what a resource may become by its own steps.
* `Registry` names the stores of a context, with what they hold and how that may change.
* `Context.Lasting` says that every resource is still there as what it has become.
  `Context.Step.lasting` is the step lemma and `Context.lasting_of_steps` the run lemma.

Steps that register a resource do so under an id that is not taken, except for pipelines: those are
put under the next id without a look. So the step lemma needs that no pipeline has an id that is still
to be minted, which `Context.Reachable.pipelines_lt` provides.
-/

namespace PassForge

open Relation (ReflTransGen)

variable {α τ : Type}

/-- What a resource may become by steps of its own, whatever happens to the device meanwhile. -/
def Becomes (Step : Live τ → Live τ → Prop) : τ → τ → Prop :=
  ReflTransGen fun a a' => ∃ d d', Step ⟨a, d⟩ ⟨a', d'⟩

theorem Becomes.single {Step : Live τ → Live τ → Prop} {l l' : Live τ} (h : Step l l') :
    Becomes Step l.object l'.object := ReflTransGen.single ⟨l.device, l'.device, h⟩

theorem Becomes.of_steps {Step : Live τ → Live τ → Prop} {l l' : Live τ}
    (h : ReflTransGen Step l l') : Becomes Step l.object l'.object := by
  induction h with
  | refl => exact .refl
  | tail _ h ih => exact ih.trans (single h)

/-- What no step of a resource destroys, no resource loses. -/
theorem Becomes.keeps {Step : Live τ → Live τ → Prop} {P : τ → Prop} {a a' : τ}
    (h : Becomes Step a a') (hstep : ∀ l l', Step l l' → P l.object → P l'.object) (ha : P a) :
    P a' := by
  induction h with
  | refl => exact ha
  | tail _ h ih =>
    obtain ⟨d, d', h⟩ := h
    exact hstep _ _ h ih

/-- What every step of a resource leaves as it is, every resource keeps. -/
theorem Becomes.eq {Step : Live τ → Live τ → Prop} {f : τ → α} {a a' : τ} (h : Becomes Step a a')
    (hstep : ∀ l l', Step l l' → f l'.object = f l.object) : f a' = f a :=
  h.keeps (P := fun a' => f a' = f a) (fun l l' hl heq => (hstep l l' hl).trans heq) rfl

/-! ## Stores -/

namespace Store

variable {R : τ → τ → Prop} {s s' s'' : Store τ} {id id' : ResourceId} {a b : τ}

/-- The ids of the resources of a store. -/
def ids (s : Store τ) : List ResourceId := s.entries.entries.map Prod.fst

theorem mem_ids_iff : id ∈ s.ids ↔ ∃ a, s.get? id = some a := by
  have hentry : ∀ a, s.get? id = some a ↔ (id, a) ∈ s.entries.entries := fun _ =>
    SortedMap.get?_eq_some_iff
  simp only [ids, List.mem_map, hentry]
  constructor
  · rintro ⟨⟨id, a⟩, h, rfl⟩
    exact ⟨a, h⟩
  · rintro ⟨a, h⟩
    exact ⟨(id, a), h, rfl⟩

theorem not_mem_ids_iff : id ∉ s.ids ↔ s.get? id = none := by
  rw [mem_ids_iff, Option.eq_none_iff_forall_ne_some]
  exact not_exists

theorem nodup_ids : s.ids.Nodup :=
  List.pairwise_map.2 (s.entries.ascending.imp fun h heq => Nat.ne_of_lt h (congrArg _ heq))

theorem length_ids : s.ids.length = s.size := List.length_map ..

/-- Replacing a resource leaves the ids. -/
@[simp]
theorem ids_update : (s.update id a).ids = s.ids := by
  simp only [ids, update, SortedMap.modify, List.map_map]
  exact List.map_congr_left fun _ _ => fst_modifyEntry ..

theorem mem_ids_insert : id' ∈ (s.insert id a).ids ↔ id' = id ∨ id' ∈ s.ids := by
  simp only [mem_ids_iff, get?_insert]
  by_cases h : id' = id <;> simp [h]

/-- Stores that are the same when mapped have the same ids. -/
theorem ids_of_map {β : Type} {f : τ → β} (h : s'.map f = s.map f) : s'.ids = s.ids := by
  have hentries : s'.entries.entries.map _ = s.entries.entries.map _ :=
    congrArg (fun m : Store β => m.entries.entries) h
  simpa [ids, Function.comp_def] using congrArg (List.map Prod.fst) hentries

/-- Every resource of a store is still under its id in another, as what it may have become. -/
def Lasts (R : τ → τ → Prop) (s s' : Store τ) : Prop :=
  ∀ id a, s.get? id = some a → ∃ a', s'.get? id = some a' ∧ R a a'

namespace Lasts

theorem refl (hr : ∀ a, R a a) : s.Lasts R s := fun _ a h => ⟨a, h, hr a⟩

theorem trans (hr : ∀ a b c, R a b → R b c → R a c) (h : s.Lasts R s') (h' : s'.Lasts R s'') :
    s.Lasts R s'' := by
  intro id a ha
  obtain ⟨a', ha', hR⟩ := h id a ha
  obtain ⟨a'', ha'', hR'⟩ := h' id a' ha'
  exact ⟨a'', ha'', hr a a' a'' hR hR'⟩

theorem update (hr : ∀ a, R a a) (h : s.get? id = some a) (hb : R a b) :
    s.Lasts R (s.update id b) := fun _ _ =>
  Store.exists_get?_update (R := fun _ => R) h hb fun _ _ _ _ => hr _

/-- Registering a resource under an id that is not taken replaces nothing. -/
theorem insert (hr : ∀ a, R a a) (h : id ∉ s.ids) : s.Lasts R (s.insert id b) := by
  intro id' a ha
  have hne : id' ≠ id := by
    rintro rfl
    exact h (mem_ids_iff.2 ⟨a, ha⟩)
  exact ⟨a, by rw [get?_insert, if_neg hne, ha], hr a⟩

end Lasts

end Store

/-! ## Registries -/

/-- One of the stores of a context. -/
inductive Registry where
  | buffers
  | textures
  | samplers
  | shaders
  | colorAttachments
  | depthAttachments
  | pipelines
  deriving DecidableEq

namespace Registry

/-- What a store holds. -/
def Object : Registry → Type
  | buffers => Buffer
  | textures => Texture
  | samplers => Sampler
  | shaders => Shader
  | colorAttachments => ColorAttachment
  | depthAttachments => DepthAttachment
  | pipelines => Pipeline

/-- A store as a shelf of the context. -/
def shelf : (r : Registry) → Shelf r.Object
  | buffers => .buffers
  | textures => .textures
  | samplers => .samplers
  | shaders => .shaders
  | colorAttachments => .colorAttachments
  | depthAttachments => .depthAttachments
  | pipelines => .pipelines

instance : (r : Registry) → r.shelf.Lawful
  | buffers => inferInstanceAs (Shelf.Lawful .buffers)
  | textures => inferInstanceAs (Shelf.Lawful .textures)
  | samplers => inferInstanceAs (Shelf.Lawful .samplers)
  | shaders => inferInstanceAs (Shelf.Lawful .shaders)
  | colorAttachments => inferInstanceAs (Shelf.Lawful .colorAttachments)
  | depthAttachments => inferInstanceAs (Shelf.Lawful .depthAttachments)
  | pipelines => inferInstanceAs (Shelf.Lawful .pipelines)

/-- What an object of a store may become while it stays the same object. Attachments and pipelines
never change. -/
def Becomes : (r : Registry) → r.Object → r.Object → Prop
  | buffers => PassForge.Becomes Buffer.Step
  | textures => PassForge.Becomes Texture.Step
  | samplers => PassForge.Becomes Sampler.Step
  | shaders => PassForge.Becomes Shader.Step
  | colorAttachments | depthAttachments | pipelines => Eq

variable {r : Registry}

theorem Becomes.refl (a : r.Object) : r.Becomes a a := by
  cases r
  case buffers | textures | samplers | shaders => exact ReflTransGen.refl
  case colorAttachments | depthAttachments | pipelines => exact rfl

theorem Becomes.trans (a b d : r.Object) (h : r.Becomes a b) (h' : r.Becomes b d) :
    r.Becomes a d := by
  cases r
  case buffers | textures | samplers | shaders => exact ReflTransGen.trans h h'
  case colorAttachments | depthAttachments | pipelines => exact Eq.trans h h'

/-- Setting one store leaves the others. -/
theorem get_set_of_ne {r' : Registry} (h : r' ≠ r) (s : Store r.Object) (c : Context) :
    r'.shelf.get (r.shelf.set s c) = r'.shelf.get c := by
  cases r <;> cases r' <;> first | rfl | contradiction

end Registry

/-! ## Contexts -/

namespace Context

variable {c c' c'' : Context} {r : Registry} {id : ResourceId}

/-- The ids that are registered in a store of a context. -/
def ids (c : Context) (r : Registry) : List ResourceId := (r.shelf.get c).ids

/-- Every object of every store is still there, as what it has become. -/
def Lasting (c c' : Context) : Prop :=
  ∀ r : Registry, (r.shelf.get c).Lasts r.Becomes (r.shelf.get c')

namespace Lasting

theorem refl : Lasting c c := fun _ => .refl Registry.Becomes.refl

theorem trans (h : Lasting c c') (h' : Lasting c' c'') : Lasting c c'' := fun r =>
  (h r).trans Registry.Becomes.trans (h' r)

/-- Nothing is lost as long as the stores are the same. -/
theorem of_get (h : ∀ r : Registry, r.shelf.get c' = r.shelf.get c) : Lasting c c' := fun r => by
  rw [h r]
  exact .refl Registry.Becomes.refl

theorem device (d : Device) : Lasting c { c with device := d } :=
  of_get fun _ => Shelf.Lawful.get_device ..

theorem set (r : Registry) {s : Store r.Object} (h : (r.shelf.get c).Lasts r.Becomes s) :
    Lasting c (r.shelf.set s c) := by
  intro r'
  by_cases heq : r' = r
  · subst heq
    rwa [Shelf.Lawful.get_set]
  · rw [Registry.get_set_of_ne heq]
    exact .refl Registry.Becomes.refl

theorem put (r : Registry) {a : r.Object} {l : Live r.Object}
    (h : (r.shelf.get c).get? id = some a) (hl : r.Becomes a l.object) :
    Lasting c (r.shelf.put id l c) := by
  refine (device l.device).trans (set r ?_)
  rw [Shelf.Lawful.get_device]
  exact .update Registry.Becomes.refl h hl

theorem insert (r : Registry) (a : r.Object) (h : (r.shelf.get c).get? id = none) :
    Lasting c (r.shelf.set ((r.shelf.get c).insert id a) c) :=
  set r (.insert Registry.Becomes.refl (Store.not_mem_ids_iff.2 h))

/-- What is registered stays registered. -/
theorem ids_subset (h : Lasting c c') (r : Registry) : c.ids r ⊆ c'.ids r := by
  intro id hid
  obtain ⟨a, ha⟩ := Store.mem_ids_iff.1 hid
  obtain ⟨a', ha', -⟩ := h r id a ha
  exact Store.mem_ids_iff.2 ⟨a', ha'⟩

section Objects

variable (hc : Lasting c c')
include hc

theorem buffer {b : Buffer} (h : c.buffers.get? id = some b) :
    ∃ b', c'.buffers.get? id = some b' ∧ PassForge.Becomes Buffer.Step b b' := hc .buffers id b h

theorem texture {t : Texture} (h : c.textures.get? id = some t) :
    ∃ t', c'.textures.get? id = some t' ∧ PassForge.Becomes Texture.Step t t' := hc .textures id t h

theorem sampler {s : Sampler} (h : c.samplers.get? id = some s) :
    ∃ s', c'.samplers.get? id = some s' ∧ PassForge.Becomes Sampler.Step s s' := hc .samplers id s h

theorem shader {s : Shader} (h : c.shaders.get? id = some s) :
    ∃ s', c'.shaders.get? id = some s' ∧ PassForge.Becomes Shader.Step s s' := hc .shaders id s h

/-- Colour attachments last as they are. -/
theorem colorAttachment {a : ColorAttachment} (h : c.colorAttachments.get? id = some a) :
    c'.colorAttachments.get? id = some a := by
  obtain ⟨a', ha', heq⟩ := hc .colorAttachments id a h
  cases (heq : a = a')
  exact ha'

/-- Depth-stencil attachments last as they are. -/
theorem depthAttachment {a : DepthAttachment} (h : c.depthAttachments.get? id = some a) :
    c'.depthAttachments.get? id = some a := by
  obtain ⟨a', ha', heq⟩ := hc .depthAttachments id a h
  cases (heq : a = a')
  exact ha'

end Objects

end Lasting

/-! ## Registered ids -/

theorem ids_device (d : Device) (r : Registry) : ids { c with device := d } r = c.ids r :=
  congrArg Store.ids (Shelf.Lawful.get_device ..)

/-- Putting a changed resource back leaves the ids. -/
theorem ids_put (r : Registry) {l : Live r.Object} (r' : Registry) :
    (r.shelf.put id l c).ids r' = c.ids r' := by
  by_cases heq : r' = r
  · subst heq
    show (r'.shelf.get (r'.shelf.put id l c)).ids = _
    rw [Shelf.get_put, Store.ids_update]
    rfl
  · show (r'.shelf.get (r.shelf.set _ _)).ids = _
    rw [Registry.get_set_of_ne heq, Shelf.Lawful.get_device]
    rfl

/-- Registering a resource adds its id to those of its store. -/
theorem mem_ids_set_insert {r r' : Registry} {a : r.Object} {id' : ResourceId}
    (h : id' ∈ (r.shelf.set ((r.shelf.get c).insert id a) c).ids r') :
    id' = id ∨ id' ∈ c.ids r' := by
  by_cases heq : r' = r
  · subst heq
    unfold ids at h
    rw [Shelf.Lawful.get_set] at h
    exact Store.mem_ids_insert.1 h
  · unfold ids at h
    rw [Registry.get_set_of_ne heq] at h
    exact .inr h

theorem Spared.ids (h : Spared c c') (r : Registry) : c'.ids r = c.ids r := by
  cases r with
  | buffers => exact Store.ids_of_map h.buffers
  | textures => exact Store.ids_of_map h.textures
  | samplers => exact Store.ids_of_map h.samplers
  | shaders => exact Store.ids_of_map h.shaders
  | colorAttachments => exact congrArg Store.ids h.colorAttachments
  | depthAttachments => exact congrArg Store.ids h.depthAttachments
  | pipelines => exact congrArg Store.ids h.pipelines

/-! ## Steps -/

/-- No pipeline has an id that is still to be minted. -/
theorem Step.pipelines_lt (h : Step c c') (hc : ∀ id ∈ c.ids .pipelines, id.value < c.nextId) :
    ∀ id ∈ c'.ids .pipelines, id.value < c'.nextId := by
  cases h with
  | touch h =>
    rw [h.spared.ids, h.spared.nextId]
    exact hc
  | mint => exact fun id hid => Nat.lt_succ_of_lt (hc id hid)
  | registerPipeline p =>
    intro id hid
    obtain rfl | hid := Store.mem_ids_insert.1 hid
    · exact Nat.lt_succ_self _
    · exact Nat.lt_succ_of_lt (hc id hid)
  | _ => exact hc

theorem Reachable.pipelines_lt (hc : Reachable c) : ∀ id ∈ c.ids .pipelines, id.value < c.nextId := by
  obtain ⟨d, hd⟩ := hc
  induction hd with
  | refl => exact fun _ h => (nomatch h)
  | tail _ h ih => exact h.pipelines_lt ih

/-- So the next id is not taken. -/
theorem get?_mint (hc : ∀ id ∈ c.ids .pipelines, id.value < c.nextId) :
    c.pipelines.get? c.mint.1 = none :=
  Store.not_mem_ids_iff.1 fun h => Nat.lt_irrefl _ (hc _ h)

theorem Touch.lasting (h : Touch c c') : Lasting c c' := by
  cases h with
  | buffer h hl => exact .put .buffers h (PassForge.Becomes.single (Buffer.Step.use hl))
  | texture h hl => exact .put .textures h (PassForge.Becomes.single (Texture.Step.use hl))
  | sampler h hl => exact .put .samplers h (PassForge.Becomes.single hl)
  | shader h hl => exact .put .shaders h (PassForge.Becomes.single (Shader.Step.use hl))
  | layout | pipelineLayout | group => exact .device _

/-- A step leaves every resource under its id, and changes it by a step of its own at most. -/
theorem Step.lasting (h : Step c c') (hc : ∀ id ∈ c.ids .pipelines, id.value < c.nextId) :
    Lasting c c' := by
  cases h with
  | touch h => exact h.lasting
  | buffer h hl => exact .put .buffers h (PassForge.Becomes.single hl)
  | texture h hl => exact .put .textures h (PassForge.Becomes.single hl)
  | shader h hl => exact .put .shaders h (PassForge.Becomes.single hl)
  | mint => exact .of_get fun r => by cases r <;> rfl
  | addBuffer _ _ h => exact .insert .buffers _ h
  | addTexture _ _ _ h => exact .insert .textures _ h
  | addSurface h => exact .insert .textures _ h
  | addSampler _ _ h => exact .insert .samplers _ h
  | addShader _ _ h => exact .insert .shaders _ h
  | addColor _ h => exact .insert .colorAttachments _ h
  | addDepth _ h => exact .insert .depthAttachments _ h
  | registerPipeline p =>
    have hmint : Lasting c c.mint.2 := .of_get fun r => by cases r <;> rfl
    exact hmint.trans (.insert .pipelines p (get?_mint hc))
  | renderPipeline | computePipeline | encode | callHook | nextFrame | loseSurface =>
    exact .device _

/-- A step leaves what the resources of a store are called in messages. -/
theorem Step.kind (h : Step c c') (r : Registry) :
    (r.shelf.get c').kind = (r.shelf.get c).kind := by
  cases h with
  | touch h => cases h <;> cases r <;> rfl
  | _ => cases r <;> rfl

theorem Reachable.kind (hc : Reachable c) (r : Registry) :
    (r.shelf.get c).kind = (r.shelf.get (start {})).kind := by
  obtain ⟨d, hd⟩ := hc
  induction hd with
  | refl => cases r <;> rfl
  | tail _ h ih => exact (h.kind r).trans ih

/-- **What is registered lasts.** Whatever operations do to a context, every resource is still under
its id afterwards, and has changed by steps of its own only. -/
theorem lasting_of_steps (hc : Reachable c) (h : ReflTransGen Step c c') : Lasting c c' := by
  suffices Lasting c c' ∧ ∀ id ∈ c'.ids .pipelines, id.value < c'.nextId from this.1
  induction h with
  | refl => exact ⟨.refl, hc.pipelines_lt⟩
  | tail _ h ih => exact ⟨ih.1.trans (h.lasting ih.2), h.pipelines_lt ih.2⟩

end Context

end PassForge
