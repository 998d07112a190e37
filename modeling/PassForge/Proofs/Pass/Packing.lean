import PassForge.Proofs.Context.Durable
import PassForge.Proofs.Pass.Bindings

/-!
# When bind groups are made

A bind group is made exactly if each of its bindings is supplied and the buffers that it shares are
large enough. What one binding needs does not depend on what binding the others has left, but for the
offset at which the next range of a shared buffer starts.

* `Context.Supplies`: something is assigned to a name that can be bound for a kind.
* `packed` are the ranges that are cut from a buffer one after another, and `Context.Packs` says that
  those of a group fit. `Context.CutsTo` is what one binding adds to the cuts; `fitsFrom_cons_iff` takes
  the ranges of a list of bindings apart along it.
* `exists_bindResource_iff`, `exists_bindAll_iff` and `exists_makeBindGroup_iff` say when one binding,
  some bindings and a group are bound, in an `Orderly` context.
-/

namespace PassForge

open Context (Touch)
open Relation (ReflTransGen)

variable {c c' : Context} {table : UniformTable} {g : MergedGroup} {b : MergedBinding}
  {bs : List MergedBinding} {cuts cuts' : Cuts} {id : ResourceId}

/-! ## Orderly contexts -/

/-- A sound context as operations lead to it, on a device whose limits for sizes are 64-bit numbers. -/
structure Context.Orderly (c : Context) : Prop where
  sound : c.Sound
  checked : c.Checked
  limits : ∀ k : BufferKind, k.sizeLimit c.device.limits ≤ UInt64.size

/-- The default limits of a device are 64-bit numbers. -/
theorem BufferKind.sizeLimit_le_of_default {limits : Limits} (h : limits = {}) (k : BufferKind) :
    k.sizeLimit limits ≤ UInt64.size := by
  subst h
  cases k <;> decide

namespace Context.Orderly

theorem touches (h : c.Orderly) (hc : ReflTransGen Touch c c') : c'.Orderly where
  sound := sound_of_touches hc h.sound
  checked := checked_of_touches hc h.checked
  limits := by
    rw [(spared_of_touches hc).device.limits]
    exact h.limits

theorem size_lt (h : c.Orderly) {buffer : Buffer} (hb : c.buffers.get? id = some buffer) :
    buffer.size < UInt64.size :=
  Nat.lt_of_lt_of_le (h.checked.buffers id buffer hb) (h.limits buffer.kind)

end Context.Orderly

/-! ## Supplies -/

/-- What stands behind a binding of a kind can be bound: a texture allows storage access if it is bound
for it, and the surface has an image if it is bound. -/
def Resolved.Bindable (d : Device) (kind : ResourceKind) : Resolved → Prop
  | texture t => (kind.isStorageTexture = true → t.usage.contains { storageBinding := true }) ∧
      (t.kind = .surface → d.surface ≠ none)
  | buffer _ | sampler _ => True

/-- Something is assigned to a name that can be bound for a kind. -/
def Context.Supplies (c : Context) (table : UniformTable) (name : String) (kind : ResourceKind) :
    Prop :=
  ∃ a r, table.assignment? name = some a ∧ Resolves c a kind r ∧ r.Bindable c.device kind

theorem Resolved.Bindable.congr {d d' : Device} {kind : ResourceKind} {t t' : Texture}
    (ht : t'.bare = t.bare) (hd : d'.surface = d.surface)
    (h : (Resolved.texture t).Bindable d kind) : (Resolved.texture t').Bindable d' kind := by
  have husage := Texture.field_of_bare Texture.usage (fun _ => rfl) ht
  have hkind := Texture.field_of_bare Texture.kind (fun _ => rfl) ht
  show (_ → t'.usage.contains _ = true) ∧ (t'.kind = _ → d'.surface ≠ none)
  rw [husage, hkind, hd]
  exact h

/-- Whether a name is supplied does not depend on what binding leaves. -/
theorem Twin.supplies {name : String} {kind : ResourceKind} (ht : Twin c c')
    (h : c.Supplies table name kind) : c'.Supplies table name kind := by
  obtain ⟨a, r, ha, hr, hbindable⟩ := h
  cases hr with
  | uniformBuffer hr h =>
    obtain ⟨b', h', -⟩ := Store.exists_of_map ht.buffers h
    exact ⟨a, _, ha, .uniformBuffer hr h', trivial⟩
  | storageBuffer hr h hk =>
    obtain ⟨b', h', heq⟩ := Store.exists_of_map ht.buffers h
    have hkind : b'.kind = _ := (congrArg Buffer.kind heq : b'.bare.kind = _)
    exact ⟨a, _, ha, .storageBuffer hr h' (hkind ▸ hk), trivial⟩
  | texture h hr =>
    obtain ⟨t', h', heq⟩ := Store.exists_of_map ht.textures h
    exact ⟨a, _, ha, .texture h' hr, hbindable.congr heq ht.surface⟩
  | storageTexture h hr =>
    obtain ⟨t', h', heq⟩ := Store.exists_of_map ht.textures h
    exact ⟨a, _, ha, .storageTexture h' hr, hbindable.congr heq ht.surface⟩
  | sampler h hk hr =>
    obtain ⟨s', h', heq⟩ := Store.exists_of_map ht.samplers h
    have hkind : s'.kind = _ := (congrArg Sampler.kind heq : s'.bare.kind = _)
    exact ⟨a, _, ha, .sampler h' (hkind ▸ hk) hr, trivial⟩

/-! ## Ranges -/

/-- Whether a binding takes the buffer with an id. -/
def MergedBinding.takes (table : UniformTable) (id : ResourceId) (b : MergedBinding) : Bool :=
  b.kind.isBuffer && (table.assignment? b.name).any fun a => a.resource = id

/-- The bindings of a group that take a buffer, in the order of the group. -/
def MergedGroup.takers (g : MergedGroup) (table : UniformTable) (id : ResourceId) :
    List MergedBinding := g.bindings.filter (MergedBinding.takes table id)

theorem MergedGroup.references_eq : g.references table id = (g.takers table id).length :=
  List.countP_eq_length_filter ..

/-- The ranges that are cut for some bindings one after another, if everything below `used` is
taken. -/
def packed (limits : Limits) : Nat → List MergedBinding → List BufferRange
  | _, [] => []
  | used, b :: bs => b.rangeAfter limits used :: packed limits (b.rangeAfter limits used).stop bs

/-- The ranges of each buffer that a group shares fit it. -/
def Context.Packs (c : Context) (table : UniformTable) (g : MergedGroup) : Prop :=
  ∀ id buffer, c.buffers.get? id = some buffer → 1 < (g.takers table id).length →
    ∀ r ∈ packed c.device.limits 0 (g.takers table id), r.stop ≤ buffer.size

/-- The ranges that some bindings of a group still need fit, after what has been cut. -/
def Context.FitsFrom (c : Context) (table : UniformTable) (g : MergedGroup)
    (bs : List MergedBinding) (cuts : Cuts) : Prop :=
  ∀ id buffer, c.buffers.get? id = some buffer → 1 < (g.takers table id).length →
    ∀ r ∈ packed c.device.limits ((cuts.get? id).getD 0) (bs.filter (MergedBinding.takes table id)),
      r.stop ≤ buffer.size

/-- What a binding adds to the cuts: nothing if it does not share a buffer, and a range that fits
otherwise. -/
inductive Context.CutsTo (c : Context) (table : UniformTable) (g : MergedGroup) (b : MergedBinding)
    (cuts : Cuts) : Cuts → Prop
  | whole (h : ∀ id, b.takes table id → (g.takers table id).length ≤ 1) : CutsTo c table g b cuts cuts
  | range {id : ResourceId} {buffer : Buffer} (h : b.takes table id)
      (hg : 1 < (g.takers table id).length) (hb : c.buffers.get? id = some buffer)
      (hr : (b.rangeAfter c.device.limits ((cuts.get? id).getD 0)).stop ≤ buffer.size) :
      CutsTo c table g b cuts
        (cuts.insert id (b.rangeAfter c.device.limits ((cuts.get? id).getD 0)).stop)

theorem MergedBinding.takes_iff : b.takes table id ↔
    b.kind.isBuffer ∧ ∃ a, table.assignment? b.name = some a ∧ a.resource = id := by
  unfold takes
  cases table.assignment? b.name <;> simp

/-- A binding takes one buffer at most. -/
theorem MergedBinding.eq_of_takes {id' : ResourceId} (h : b.takes table id) (h' : b.takes table id') :
    id' = id := by
  obtain ⟨-, a, ha, rfl⟩ := takes_iff.1 h
  obtain ⟨-, a', ha', rfl⟩ := takes_iff.1 h'
  cases ha.symm.trans ha'
  rfl

theorem Twin.fitsFrom (ht : Twin c c') (h : c.FitsFrom table g bs cuts) :
    c'.FitsFrom table g bs cuts := by
  intro id b' hb' hg r hr
  obtain ⟨b, hb, heq⟩ := Store.exists_of_map ht.symm.buffers hb'
  have hsize : b.size = b'.size := (congrArg Buffer.size heq : b.bare.size = b'.bare.size)
  rw [ht.limits] at hr
  exact hsize ▸ h id b hb hg r hr

/-- At first nothing is cut. -/
theorem Context.packs_iff : c.Packs table g ↔ c.FitsFrom table g g.bindings .empty := Iff.rfl

theorem Twin.packs (ht : Twin c c') (h : c.Packs table g) : c'.Packs table g :=
  Context.packs_iff.2 (ht.fitsFrom (Context.packs_iff.1 h))

/-- The buffer that a supplied binding takes exists. -/
theorem Context.Supplies.exists_buffer (hs : c.Supplies table b.name b.kind)
    (htakes : b.takes table id) : ∃ buffer, c.buffers.get? id = some buffer := by
  obtain ⟨hkind, a, ha, rfl⟩ := MergedBinding.takes_iff.1 htakes
  obtain ⟨a', r, ha', hr, -⟩ := hs
  cases ha.symm.trans ha'
  obtain ⟨buffer, -, hb⟩ := hr.exists_buffer hkind
  exact ⟨buffer, hb⟩

/-- If a binding takes a shared buffer, a range of it is cut, and the others fit after it. -/
theorem fitsFrom_cons_iff_of_takes {buffer : Buffer} (htakes : b.takes table id)
    (hg : 1 < (g.takers table id).length) (hb : c.buffers.get? id = some buffer) :
    c.FitsFrom table g (b :: bs) cuts ↔
      (b.rangeAfter c.device.limits ((cuts.get? id).getD 0)).stop ≤ buffer.size ∧
        c.FitsFrom table g bs
          (cuts.insert id (b.rangeAfter c.device.limits ((cuts.get? id).getD 0)).stop) := by
  constructor
  · intro h
    have hfirst := h id buffer hb hg
    rw [List.filter_cons_of_pos htakes] at hfirst
    refine ⟨hfirst _ List.mem_cons_self, fun id' buffer' hb' hg' r hr => ?_⟩
    rw [SortedMap.get?_insert] at hr
    split at hr
    · next heq =>
      subst heq
      cases hb.symm.trans hb'
      exact hfirst r (List.mem_cons_of_mem _ hr)
    · next hne =>
      have hnot : ¬b.takes table id' := fun h' => hne (MergedBinding.eq_of_takes htakes h')
      have hrest := h id' buffer' hb' hg' r
      rw [List.filter_cons_of_neg hnot] at hrest
      exact hrest hr
  · rintro ⟨hfits, h⟩ id' buffer' hb' hg' r hr
    have hrest := h id' buffer' hb' hg' r
    rw [SortedMap.get?_insert] at hrest
    by_cases heq : id' = id
    · subst heq
      cases hb.symm.trans hb'
      rw [List.filter_cons_of_pos htakes] at hr
      rw [if_pos rfl] at hrest
      rcases List.mem_cons.1 hr with rfl | hr
      · exact hfits
      · exact hrest hr
    · have hnot : ¬b.takes table id' := fun h' => heq (MergedBinding.eq_of_takes htakes h')
      rw [List.filter_cons_of_neg hnot] at hr
      rw [if_neg heq] at hrest
      exact hrest hr

/-- A binding that takes no shared buffer does not matter to the ranges. -/
theorem fitsFrom_cons_iff_of_whole
    (hwhole : ∀ id, b.takes table id → (g.takers table id).length ≤ 1) :
    c.FitsFrom table g (b :: bs) cuts ↔ c.FitsFrom table g bs cuts := by
  refine forall_congr' fun id => forall_congr' fun buffer => forall_congr' fun _ =>
    forall_congr' fun hg => ?_
  have hnot : ¬b.takes table id := fun htakes => by
    have := hwhole id htakes
    omega
  rw [List.filter_cons_of_neg hnot]

/-- The ranges of some bindings fit iff the range of the first does and then those of the others. -/
theorem fitsFrom_cons_iff (hs : c.Supplies table b.name b.kind) :
    c.FitsFrom table g (b :: bs) cuts ↔
      ∃ cuts', c.CutsTo table g b cuts cuts' ∧ c.FitsFrom table g bs cuts' := by
  constructor
  · intro h
    by_cases hwhole : ∀ id, b.takes table id → (g.takers table id).length ≤ 1
    · exact ⟨cuts, .whole hwhole, (fitsFrom_cons_iff_of_whole hwhole).1 h⟩
    · push Not at hwhole
      obtain ⟨id, htakes, hg⟩ := hwhole
      obtain ⟨buffer, hb⟩ := hs.exists_buffer htakes
      obtain ⟨hfits, hrest⟩ := (fitsFrom_cons_iff_of_takes htakes hg hb).1 h
      exact ⟨_, .range htakes hg hb hfits, hrest⟩
  · rintro ⟨cuts', hcuts, hrest⟩
    cases hcuts with
    | whole hwhole => exact (fitsFrom_cons_iff_of_whole hwhole).2 hrest
    | range htakes hg hb hfits => exact (fitsFrom_cons_iff_of_takes htakes hg hb).2 ⟨hfits, hrest⟩

/-! ## Binding -/

theorem Context.cutsTo_whole (h : ∀ id, b.takes table id = false) :
    c.CutsTo table g b cuts cuts' ↔ cuts' = cuts := by
  constructor
  · intro hcuts
    cases hcuts with
    | whole => rfl
    | range htakes => exact nomatch (h _).symm.trans htakes
  · rintro rfl
    exact .whole fun id htakes => nomatch (h id).symm.trans htakes

/-- A range is cut iff it fits, if the buffer can be addressed. -/
theorem cut_eq_ok_iff {limits : Limits} {buffer : Buffer} {range : BufferRange}
    (hb : buffer.size < UInt64.size) : cut limits buffer b cuts = .ok (range, cuts') ↔
      range = b.rangeAfter limits ((cuts.get? buffer.id).getD 0) ∧ range.stop ≤ buffer.size ∧
        cuts' = cuts.insert buffer.id range.stop := by
  unfold cut
  simp only []
  generalize b.rangeAfter limits ((cuts.get? buffer.id).getD 0) = r
  by_cases hfits : r.stop ≤ buffer.size
  · rw [if_neg (by omega), if_neg (by omega), Except.ok.injEq, Prod.mk.injEq]
    constructor
    · rintro ⟨rfl, rfl⟩
      exact ⟨rfl, hfits, rfl⟩
    · rintro ⟨rfl, -, rfl⟩
      exact ⟨rfl, rfl⟩
  · have hno : ¬(range = r ∧ range.stop ≤ buffer.size ∧ cuts' = cuts.insert buffer.id range.stop) :=
      fun ⟨heq, hle, _⟩ => hfits (heq ▸ hle)
    refine iff_of_false (fun h => ?_) hno
    split at h
    · cases h
    · rw [if_pos (by omega)] at h
      cases h

/-- A buffer is bound iff the range that is cut for it, if any, fits. -/
theorem exists_bindBuffer_iff (hc : c.Orderly) {buffer : Buffer}
    (hb : c.buffers.get? id = some buffer) (htakes : b.takes table id) :
    (∃ bound c', bindBuffer table g b buffer cuts c = .ok (bound, cuts') c') ↔
      c.CutsTo table g b cuts cuts' := by
  have hid : buffer.id = id := (hc.sound.buffers id buffer hb).1
  obtain ⟨serial, l, hl⟩ := Buffer.exists_handle_eq_ok ⟨buffer, c.device⟩
  have hon : Work.on .buffers id Buffer.handle c = .ok serial (Shelf.buffers.put id l c) :=
    on_of_ok hb hl
  have ht := (Work.on_buffer_touches Buffer.handle_uses).of_eq_ok hon
  generalize Shelf.buffers.put id l c = c₁ at hon ht
  unfold bindBuffer
  rw [hid, bind_of_ok (lift_eq_ok.2 hon), MergedGroup.references_eq]
  by_cases hg : (g.takers table id).length ≤ 1
  · rw [if_pos hg]
    constructor
    · rintro ⟨bound, c', h⟩
      cases h
      exact .whole fun id' htakes' => (MergedBinding.eq_of_takes htakes htakes') ▸ hg
    · intro hcuts
      cases hcuts with
      | whole => exact ⟨_, _, rfl⟩
      | range htakes' hg' =>
        obtain rfl := MergedBinding.eq_of_takes htakes htakes'
        omega
  · rw [if_neg hg, context_bind, (Context.spared_of_touches ht).device.limits]
    constructor
    · rintro ⟨bound, c', h⟩
      obtain ⟨⟨range, cuts₁⟩, hcut, hpure⟩ := liftExcept_bind_eq_ok h
      cases hpure
      obtain ⟨rfl, hfits, rfl⟩ := (cut_eq_ok_iff (hc.size_lt hb)).1 hcut
      rw [hid] at hfits ⊢
      exact .range htakes (Nat.lt_of_not_le hg) hb hfits
    · intro hcuts
      cases hcuts with
      | whole hwhole => exact absurd (hwhole id htakes) hg
      | @range id' buffer' htakes' hg' hb' hfits =>
        obtain rfl := MergedBinding.eq_of_takes htakes htakes'
        cases hb.symm.trans hb'
        have hcut : cut c.device.limits buffer b cuts = .ok (_, cuts.insert buffer.id _) :=
          (cut_eq_ok_iff (hc.size_lt hb)).2 ⟨rfl, by rwa [hid], rfl⟩
        rw [hcut, hid]
        exact ⟨_, _, rfl⟩

/-- Whether a texture of an orderly context can be bound. -/
theorem Texture.bindable_eq_ok_iff (hc : c.Orderly) {t : Texture} (ht : c.textures.get? id = some t)
    (kind : ResourceKind) : t.bindable c.device kind.isStorageTexture = .ok () ↔
      (Resolved.texture t).Bindable c.device kind := by
  show _ ↔ (_ → _) ∧ (_ → _)
  cases kind.isStorageTexture with
  | true =>
    by_cases hu : t.usage.contains { storageBinding := true }
    · have hkind := (hc.sound.textures id t ht).2.surface hu
      exact iff_of_true (if_pos hu) ⟨fun _ => hu, fun h => absurd h hkind⟩
    · exact iff_of_false (fun h => nomatch (if_neg hu).symm.trans h) fun h => hu (h.1 rfl)
  | false =>
    have hu := hc.checked.textures id t ht
    rw [show t.bindable c.device false = if t.kind = .surface ∧ c.device.surface = none then _ else _
      from if_pos hu]
    by_cases hs : t.kind = .surface ∧ c.device.surface = none
    · rw [if_pos hs]
      exact iff_of_false (fun h => (nomatch h)) fun h => h.2 hs.1 hs.2
    · rw [if_neg hs]
      exact iff_of_true rfl ⟨fun h => (nomatch h), fun hk hnone => hs ⟨hk, hnone⟩⟩

/-- A texture is bound iff it can be. -/
theorem exists_bindTexture_iff (hc : c.Orderly) {t : Texture} (ht : c.textures.get? id = some t) :
    (∃ bound c', bindTexture b t c = .ok bound c') ↔
      (Resolved.texture t).Bindable c.device b.kind := by
  obtain ⟨hid, hsound⟩ := hc.sound.textures id t ht
  rw [← Texture.bindable_eq_ok_iff hc ht, bindTexture_eq, hid]
  obtain ⟨e, l, he, h⟩ | ⟨hok, v, l, h, -⟩ :=
    Texture.bindView_spec (l := ⟨t, c.device⟩) b.kind.isStorageTexture hsound
  · have hon : Work.on .textures id _ c = .error e (Shelf.textures.put id l c) := on_of_error ht h
    refine iff_of_false ?_ fun hok => nomatch he.symm.trans hok
    rintro ⟨bound, c', hbound⟩
    obtain ⟨v, c₁, hv, -⟩ := bind_eq_ok hbound
    exact nomatch hon.symm.trans (lift_eq_ok.1 hv)
  · have hon : Work.on .textures id _ c = .ok v (Shelf.textures.put id l c) := on_of_ok ht h
    exact iff_of_true ⟨_, _, bind_of_ok (lift_eq_ok.2 hon)⟩ hok

/-- What stands behind a binding is bound iff it can be and the range that is cut for it fits. -/
theorem exists_bindResource_iff_of_resolves (hc : c.Orderly) {a : Assignment} {r : Resolved}
    (ha : table.assignment? b.name = some a) (hr : Resolves c a b.kind r) :
    (∃ bound c', bindResource table g b cuts c = .ok (bound, cuts') c') ↔
      r.Bindable c.device b.kind ∧ c.CutsTo table g b cuts cuts' := by
  have hresolve : resolve c table g.index b = .ok r := hr.resolve_eq_ok ha
  have hbuffer (hkind : b.kind.isBuffer) : b.takes table a.resource :=
    MergedBinding.takes_iff.2 ⟨hkind, a, ha, rfl⟩
  have hother (hkind : b.kind.isBuffer = false) (id : ResourceId) : b.takes table id = false := by
    rw [MergedBinding.takes, hkind, Bool.false_and]
  unfold bindResource
  rw [context_bind, hresolve, bind_of_ok (liftExcept_eq_ok.2 ⟨rfl, rfl⟩)]
  -- what is bound depends on the kind of the binding only through the resource behind it
  generalize hk : b.kind = k at hr hbuffer hother
  cases hr with
  | uniformBuffer _ h | storageBuffer _ h =>
    exact (exists_bindBuffer_iff hc h (hbuffer rfl)).trans ⟨fun h => ⟨trivial, h⟩, And.right⟩
  | texture h | storageTexture h =>
    rw [← hk, ← exists_bindTexture_iff hc h, Context.cutsTo_whole (hother rfl)]
    constructor
    · rintro ⟨bound, c', hbound⟩
      obtain ⟨bound', c₁, hbind, hpure⟩ := bind_eq_ok hbound
      cases hpure
      exact ⟨⟨_, _, hbind⟩, rfl⟩
    · rintro ⟨⟨bound, c', hbind⟩, rfl⟩
      exact ⟨bound, c', bind_of_ok hbind⟩
  | sampler h =>
    rw [Context.cutsTo_whole (hother rfl)]
    obtain ⟨serial, l, hl⟩ := Sampler.exists_handle_eq_ok ⟨_, c.device⟩
    have hon : Work.on .samplers a.resource Sampler.handle c =
        .ok serial (Shelf.samplers.put a.resource l c) := on_of_ok h hl
    rw [← (hc.sound.samplers _ _ h).1] at hon
    constructor
    · rintro ⟨bound, c', hbound⟩
      obtain ⟨serial', c₁, -, hpure⟩ := bind_eq_ok hbound
      cases hpure
      exact ⟨trivial, rfl⟩
    · rintro ⟨-, rfl⟩
      exact ⟨_, _, bind_of_ok (lift_eq_ok.2 hon)⟩

/-- **When a binding is bound**, and what that adds to the cuts. -/
theorem exists_bindResource_iff (hc : c.Orderly) :
    (∃ bound c', bindResource table g b cuts c = .ok (bound, cuts') c') ↔
      c.Supplies table b.name b.kind ∧ c.CutsTo table g b cuts cuts' := by
  constructor
  · intro h
    obtain ⟨bound, c', hbind⟩ := id h
    unfold bindResource at hbind
    rw [context_bind] at hbind
    obtain ⟨r, hr, -⟩ := liftExcept_bind_eq_ok hbind
    obtain ⟨a, ha, hres⟩ := resolve_eq_ok hr
    obtain ⟨hbindable, hcuts⟩ := (exists_bindResource_iff_of_resolves hc ha hres).1 h
    exact ⟨⟨a, r, ha, hres, hbindable⟩, hcuts⟩
  · rintro ⟨⟨a, r, ha, hres, hbindable⟩, hcuts⟩
    exact (exists_bindResource_iff_of_resolves hc ha hres).2 ⟨hbindable, hcuts⟩

/-- **When some bindings are bound** one after another. -/
theorem exists_bindAll_iff (hc : c.Orderly) : (∃ ges c', bindAll table g bs cuts c = .ok ges c') ↔
    (∀ b ∈ bs, c.Supplies table b.name b.kind) ∧ c.FitsFrom table g bs cuts := by
  induction bs generalizing c cuts with
  | nil => exact iff_of_true ⟨_, _, rfl⟩ ⟨fun _ h => (nomatch h), fun _ _ _ _ _ h => (nomatch h)⟩
  | cons b bs ih =>
    have hrest {bound : BoundResource} {cuts' : Cuts} {c₁ : Context}
        (h : bindResource table g b cuts c = .ok (bound, cuts') c₁) :
        (∃ ges c', bindAll table g bs cuts' c₁ = .ok ges c') ↔
          (∀ b ∈ bs, c.Supplies table b.name b.kind) ∧ c.FitsFrom table g bs cuts' := by
      have ht := (bindResource_touches g b cuts).of_eq_ok h
      have htwin := Twin.of_touches hc.sound ht
      rw [ih (hc.touches ht)]
      exact ⟨fun h => ⟨fun b hb => htwin.symm.supplies (h.1 b hb), htwin.symm.fitsFrom h.2⟩,
        fun h => ⟨fun b hb => htwin.supplies (h.1 b hb), htwin.fitsFrom h.2⟩⟩
    rw [List.forall_mem_cons, and_assoc]
    constructor
    · rintro ⟨ges, c', h⟩
      obtain ⟨⟨bound, cuts'⟩, c₁, hbind, h₁⟩ := bind_eq_ok h
      obtain ⟨rest, c₂, hall, -⟩ := bind_eq_ok h₁
      obtain ⟨hs, hcuts⟩ := (exists_bindResource_iff hc).1 ⟨bound, c₁, hbind⟩
      obtain ⟨hsupplies, hfits⟩ := (hrest hbind).1 ⟨rest, c₂, hall⟩
      exact ⟨hs, hsupplies, (fitsFrom_cons_iff hs).2 ⟨cuts', hcuts, hfits⟩⟩
    · rintro ⟨hs, hsupplies, hfits⟩
      obtain ⟨cuts', hcuts, hfits'⟩ := (fitsFrom_cons_iff hs).1 hfits
      obtain ⟨bound, c₁, hbind⟩ := (exists_bindResource_iff hc).2 ⟨hs, hcuts⟩
      obtain ⟨rest, c₂, hall⟩ := (hrest hbind).2 ⟨hsupplies, hfits'⟩
      exact ⟨_, _, (bind_of_ok hbind).trans (bind_of_ok hall)⟩

/-! ## Groups -/

/-- **When a bind group is made** for a layout with as many entries as bindings. -/
theorem exists_makeBindGroup_iff (hc : c.Orderly) {l : GroupLayout}
    (hl : l.entries.length = l.group.bindings.length) :
    (∃ serial c', makeBindGroup table l c = .ok serial c') ↔
      (∀ b ∈ l.group.bindings, c.Supplies table b.name b.kind) ∧ c.Packs table l.group := by
  rw [Context.packs_iff, ← exists_bindAll_iff hc]
  constructor
  · rintro ⟨serial, c', h⟩
    obtain ⟨entries, c₁, hall, -⟩ := bind_eq_ok h
    exact ⟨entries, c₁, hall⟩
  · rintro ⟨entries, c₁, hall⟩
    have hlength : entries.length = l.entries.length :=
      ((bindAll_forall₂ (I := fun _ => True) (P := fun _ _ _ => True) (fun _ _ _ _ => trivial)
        (fun _ _ _ _ _ _ => trivial) (fun _ _ _ _ _ _ _ _ _ => trivial) trivial
        hall).length_eq.symm).trans hl.symm
    refine exists_bind_eq_ok_iff.2 ⟨entries, c₁, hall, ?_⟩
    rw [if_neg (not_not.2 hlength)]
    exact ⟨_, _, rfl⟩

/-- Mapping in steps of compiling yields a list iff each round does from the start, if what a round
needs is the same for twins. -/
theorem exists_mapM_iff {ε τ β : Type} {f : τ → Work ε β} {P : τ → Context → Prop} {l : List τ}
    (touch : ∀ a, Runs Touch (f a)) (twin : ∀ a c c', Twin c c' → P a c → P a c')
    (round : ∀ a ∈ l, ∀ c, c.Orderly → ((∃ b c', f a c = .ok b c') ↔ P a c)) (hc : c.Orderly) :
    (∃ bs c', l.mapM f c = .ok bs c') ↔ ∀ a ∈ l, P a c := by
  induction l generalizing c with
  | nil => exact iff_of_true ⟨_, _, rfl⟩ fun _ h => nomatch h
  | cons a l ih =>
    have hrest {b : β} {c₁ : Context} (h : f a c = .ok b c₁) :
        (∃ bs c', l.mapM f c₁ = .ok bs c') ↔ ∀ a ∈ l, P a c := by
      have ht := (touch a).of_eq_ok h
      have htwin := Twin.of_touches hc.sound ht
      rw [ih (fun a' ha' => round a' (List.mem_cons_of_mem a ha')) (hc.touches ht)]
      exact ⟨fun h a ha => twin a _ _ htwin.symm (h a ha), fun h a ha => twin a _ _ htwin (h a ha)⟩
    rw [List.forall_mem_cons, ← round a List.mem_cons_self c hc, List.mapM_cons]
    constructor
    · rintro ⟨bs, c', h⟩
      obtain ⟨b, c₁, hb, h₁⟩ := bind_eq_ok h
      obtain ⟨rest, c₂, hall, -⟩ := bind_eq_ok h₁
      exact ⟨⟨b, c₁, hb⟩, (hrest hb).1 ⟨rest, c₂, hall⟩⟩
    · rintro ⟨⟨b, c₁, hb⟩, hall⟩
      obtain ⟨rest, c₂, hall⟩ := (hrest hb).2 hall
      exact ⟨_, _, (bind_of_ok hb).trans (bind_of_ok hall)⟩

/-- **When the bind groups of some layouts are made.** -/
theorem exists_makeBindGroups_iff (hc : c.Orderly) {layouts : List GroupLayout}
    (hl : ∀ l ∈ layouts, l.entries.length = l.group.bindings.length) :
    (∃ groups c', makeBindGroups table layouts c = .ok groups c') ↔
      ∀ l ∈ layouts, (∀ b ∈ l.group.bindings, c.Supplies table b.name b.kind) ∧
        c.Packs table l.group :=
  exists_mapM_iff makeBindGroup_touches
    (fun _ _ _ ht h => ⟨fun b hb => ht.supplies (h.1 b hb), ht.packs h.2⟩)
    (fun l hmem _ hc => exists_makeBindGroup_iff hc (hl l hmem)) hc

/-- When the layout of a group is made: something stands behind each of its bindings. -/
theorem exists_makeLayout_iff : (∃ l c', makeLayout table g c = .ok l c') ↔
    ∀ b ∈ g.bindings, ∃ le, layoutEntry c table g.index b = .ok le := by
  rw [← exists_mapM_eq_ok_iff]
  unfold makeLayout
  rw [context_bind, exists_liftExcept_bind_eq_ok_iff]
  exact exists_congr fun entries => and_iff_left ⟨_, _, rfl⟩

/-- Layouts are made for stages that merge and whose bindings are supplied. -/
theorem exists_makeLayouts {stages : List ShaderInterface} {gs : List MergedGroup} (hc : c.Orderly)
    (hgs : merge stages c.device.limits.maxBindGroups = .ok gs)
    (h : ∀ g ∈ gs, ∀ b ∈ g.bindings, c.Supplies table b.name b.kind) :
    ∃ layouts c', makeLayouts stages table c = .ok layouts c' := by
  unfold makeLayouts
  rw [context_bind, exists_liftExcept_bind_eq_ok_iff]
  refine ⟨gs, hgs, (exists_mapM_iff makeLayout_touches ?_ (fun g _ c _ => exists_makeLayout_iff)
    hc).2 fun g hg b hb => ?_⟩
  · exact fun g c c' ht h b hb => (h b hb).imp fun le hle => (layoutEntry_congr ht.bare).trans hle
  · obtain ⟨a, r, ha, hres, -⟩ := h g hg b hb
    obtain ⟨type, htype⟩ := hres.exists_type
    refine ⟨_, bind_eq_ok_iff.2 ⟨r, hres.resolve_eq_ok ha, bind_eq_ok_iff.2 ⟨type, htype, rfl⟩⟩⟩

end PassForge
