import PassForge.Proofs.Pass.Cutting
import PassForge.Proofs.Pass.Failure

/-!
# Running out of a shared buffer

The range for a binding can leave its buffer, and its end can leave 64 bits. Binding fails in both cases;
the first binding of a group whose range does so decides with which numbers.

* `Context.Overruns`: behind the ranges of the bindings before, the range for a binding leaves its buffer.
  `Context.Overruns.exists_first` finds the first such binding, and `makeBindGroups_overrun` is the error
  that it ends in.
* `Context.Overflows`: behind ranges that fit, the end of a range leaves 64 bits. That is the only way to
  that error (`makeBindGroups_overflow`). `Context.Overflows.bounds` says what it takes, and
  `Context.Overflows.size_lt` excludes it for what is assigned as what it is.
* `sharing_spec` is the whole statement.
-/

namespace PassForge

open Context (Touch)
open Relation (ReflTransGen)

variable {c c' : Context} {table : UniformTable} {g : MergedGroup} {b : MergedBinding}
  {bs : List MergedBinding} {cuts : Cuts} {id : ResourceId} {buffer : Buffer}

/-! ## Running out of a buffer -/

/-- The error when the range for a binding leaves its buffer. -/
def overrun (stop size : Nat) : CompileError :=
  if stop < UInt64.size then .resource (.limitExceeded "buffer binding range" stop size)
  else .addressOverflow

/-- Behind the ranges of the bindings before, the range for a binding would end at `stop` and leave its
buffer. -/
def Context.Overruns (c : Context) (table : UniformTable) (g : MergedGroup)
    (before : List MergedBinding) (b : MergedBinding) (stop size : Nat) : Prop :=
  ∃ id buffer rs r, c.buffers.get? id = some buffer ∧ b.takes table id ∧
    1 < (g.takers table id).length ∧
    PackedFrom c.device.limits 0 ((before ++ [b]).filter (MergedBinding.takes table id)) (rs ++ [r]) ∧
    r.stop = stop ∧ buffer.size = size ∧ size < stop

/-- The range that is cut for a binding behind others leaves its buffer. -/
theorem Context.overruns_iff (ha : c.device.limits.Aligns) {before : List MergedBinding}
    {stop size : Nat} : c.Overruns table g before b stop size ↔
      ∃ id buffer, c.buffers.get? id = some buffer ∧ b.takes table id ∧
        1 < (g.takers table id).length ∧
        stop = (b.rangeAfter c.device.limits (usedAfter c.device.limits 0
          (before.filter (MergedBinding.takes table id)))).stop ∧
        size = buffer.size ∧ size < stop := by
  have hpacked {id : ResourceId} (htakes : b.takes table id) (used : Nat) :
      packed c.device.limits used ((before ++ [b]).filter (MergedBinding.takes table id)) =
        packed c.device.limits used (before.filter (MergedBinding.takes table id)) ++
          [b.rangeAfter c.device.limits (usedAfter c.device.limits used
            (before.filter (MergedBinding.takes table id)))] := by
    rw [List.filter_append, List.filter_cons_of_pos htakes, List.filter_nil, packed_append]
    rfl
  constructor
  · rintro ⟨id, buffer, rs, r, hb, htakes, hg, hr, rfl, rfl, hlt⟩
    have heq := hr.eq ha
    rw [hpacked htakes] at heq
    obtain ⟨-, hr'⟩ := List.append_inj' heq rfl
    cases hr'
    exact ⟨id, buffer, hb, htakes, hg, rfl, rfl, hlt⟩
  · rintro ⟨id, buffer, hb, htakes, hg, rfl, rfl, hlt⟩
    have hr := packedFrom_packed ha 0 ((before ++ [b]).filter (MergedBinding.takes table id))
    rw [hpacked htakes] at hr
    exact ⟨id, buffer, _, _, hb, htakes, hg, hr, rfl, rfl, hlt⟩

/-- A binding whose range leaves the buffer fails with its end. -/
theorem bindResource_overrun (hc : c.Orderly) (hs : c.Supplies table b.name b.kind)
    (htakes : b.takes table id) (hg : 1 < (g.takers table id).length)
    (hb : c.buffers.get? id = some buffer) {stop : Nat}
    (hstop : stop = (b.rangeAfter c.device.limits ((cuts.get? id).getD 0)).stop)
    (hlt : buffer.size < stop) :
    ∃ c', bindResource table g b cuts c = .error (overrun stop buffer.size) c' := by
  obtain ⟨hkind, a, ha, rfl⟩ := MergedBinding.takes_iff.1 htakes
  obtain ⟨a', r, ha', hres, -⟩ := hs
  cases ha.symm.trans ha'
  obtain ⟨buffer', rfl, hget⟩ := hres.exists_buffer hkind
  cases hget.symm.trans hb
  have hresolve : resolve c table g.index b = .ok (.buffer buffer) := hres.resolve_eq_ok ha
  have hid := (hc.sound.buffers _ buffer hb).1
  have hbuffer : ∃ c', bindBuffer table g b buffer cuts c = .error (overrun stop buffer.size) c' := by
    obtain ⟨serial, l, hl⟩ := Buffer.exists_handle_eq_ok ⟨buffer, c.device⟩
    have hon : Work.on .buffers a.resource Buffer.handle c = .ok serial _ := on_of_ok hb hl
    have ht := (Work.on_buffer_touches Buffer.handle_uses).of_eq_ok hon
    have hcut : cut c.device.limits buffer b cuts = .error (overrun stop buffer.size) := by
      unfold cut overrun
      simp only [hid, ← hstop]
      by_cases hoverflow : UInt64.size ≤ stop
      · rw [if_pos hoverflow, if_neg (by omega)]
      · rw [if_neg hoverflow, if_pos hlt, if_pos (by omega)]
    unfold bindBuffer
    rw [hid, bind_of_ok (lift_eq_ok.2 hon), MergedGroup.references_eq, if_neg (by omega),
      context_bind, (Context.spared_of_touches ht).device.limits, hcut]
    exact ⟨_, rfl⟩
  unfold bindResource
  rw [context_bind, hresolve, bind_of_ok (liftExcept_eq_ok.2 ⟨rfl, rfl⟩)]
  exact hbuffer

/-- Binding fails at the first range that leaves its buffer, if all bindings up to there are supplied.
-/
theorem bindAll_overrun (hc : c.Orderly) {before after : List MergedBinding}
    (hs : ∀ x ∈ before ++ [b], c.Supplies table x.name x.kind)
    (hfits : c.FitsFrom table g before cuts) (htakes : b.takes table id)
    (hg : 1 < (g.takers table id).length) (hb : c.buffers.get? id = some buffer) {stop : Nat}
    (hstop : stop = (b.rangeAfter c.device.limits (usedAfter c.device.limits ((cuts.get? id).getD 0)
      (before.filter (MergedBinding.takes table id)))).stop)
    (hlt : buffer.size < stop) :
    ∃ c', bindAll table g (before ++ b :: after) cuts c = .error (overrun stop buffer.size) c' := by
  induction before generalizing c cuts buffer with
  | nil =>
    obtain ⟨c', h⟩ := bindResource_overrun hc (hs b (by simp)) htakes hg hb hstop hlt
    exact ⟨c', bind_of_error h⟩
  | cons x before ih =>
    have hsx := hs x (by simp)
    obtain ⟨cuts', hcuts, hrest⟩ := (fitsFrom_cons_iff hsx).1 hfits
    obtain ⟨bound, c₁, hbind⟩ := (exists_bindResource_iff hc).2 ⟨hsx, hcuts⟩
    have ht := (bindResource_touches g x cuts).of_eq_ok hbind
    have htwin := Twin.of_touches hc.sound ht
    obtain ⟨buffer₁, hb₁, -, hsize⟩ := htwin.exists_buffer hb
    rw [← hsize] at hlt ⊢
    rw [hcuts.usedAfter_cons hg, ← htwin.limits] at hstop
    obtain ⟨c', h⟩ := ih (hc.touches ht)
      (fun y hy => htwin.supplies (hs y (List.mem_cons_of_mem x hy))) (htwin.fitsFrom hrest) hb₁
      hstop hlt
    exact ⟨c', (bind_of_ok hbind).trans (bind_of_error h)⟩

/-- Ranges that leave no buffer fit. -/
theorem Context.fitsFrom_of_not_overruns (ha : c.device.limits.Aligns)
    (h : ∀ before b after, bs = before ++ b :: after → ∀ stop size,
      ¬c.Overruns table g before b stop size) : c.FitsFrom table g bs .empty := by
  intro id buffer hb hg r hr
  obtain ⟨pre, b, post, hsplit, rfl⟩ := mem_packed_iff.1 hr
  obtain ⟨before, rest, rfl, rfl, hrest⟩ := List.filter_eq_append_iff.1 hsplit
  obtain ⟨skipped, after, rfl, hskipped, htakes, -⟩ := List.filter_eq_cons_iff.1 hrest
  have hbefore : (before ++ skipped).filter (MergedBinding.takes table id) =
      before.filter (MergedBinding.takes table id) := by
    rw [List.filter_append, List.filter_eq_nil_iff.2 hskipped, List.append_nil]
  by_contra hlt
  refine h (before ++ skipped) b after (by simp) _ _
    (overruns_iff ha |>.2 ⟨id, buffer, hb, htakes, hg, rfl, rfl, ?_⟩)
  rw [hbefore]
  exact Nat.lt_of_not_le hlt

/-- A range leaves its buffer, and none of those before does. -/
structure Context.FirstOverrun (c : Context) (table : UniformTable) (g : MergedGroup)
    (before : List MergedBinding) (b : MergedBinding) (stop size : Nat) : Prop where
  overruns : c.Overruns table g before b stop size
  first : ∀ before' b' after, before = before' ++ b' :: after → ∀ stop size,
    ¬c.Overruns table g before' b' stop size

/-- If some range leaves its buffer, there is a first one. -/
theorem Context.Overruns.exists_first {before : List MergedBinding} {stop size : Nat}
    (h : c.Overruns table g before b stop size) : ∃ before' b' after stop' size',
      before ++ [b] = before' ++ b' :: after ∧ c.FirstOverrun table g before' b' stop' size' := by
  -- if the bindings before do not fit, some range of theirs is behind fewer bindings
  induction hn : before.length using Nat.strongRecOn generalizing before b stop size with
  | _ n ih =>
    by_cases hfirst : ∀ before' b' after, before = before' ++ b' :: after → ∀ stop size,
        ¬c.Overruns table g before' b' stop size
    · exact ⟨before, b, [], stop, size, rfl, h, hfirst⟩
    · push Not at hfirst
      obtain ⟨before', b', after, rfl, stop', size', h'⟩ := hfirst
      obtain ⟨before'', b'', after', stop'', size'', hsplit, hover⟩ := ih before'.length
        (by simp only [List.length_append, List.length_cons] at hn; omega) h' rfl
      refine ⟨before'', b'', after' ++ after ++ [b], stop'', size'', ?_, hover⟩
      calc before' ++ b' :: after ++ [b] = (before' ++ [b']) ++ after ++ [b] := by simp
        _ = before'' ++ b'' :: (after' ++ after ++ [b]) := by simp [hsplit]

/-- A group whose first range out of bounds is behind supplied bindings is not made. -/
theorem makeBindGroup_overrun (hc : c.Orderly) (ha : c.device.limits.Aligns) {l : GroupLayout}
    {before after : List MergedBinding} {stop size : Nat}
    (hl : l.group.bindings = before ++ b :: after)
    (hs : ∀ x ∈ before ++ [b], c.Supplies table x.name x.kind)
    (h : c.FirstOverrun table l.group before b stop size) :
    ∃ c', makeBindGroup table l c = .error (overrun stop size) c' := by
  obtain ⟨id, buffer, hb, htakes, hg, hstop, rfl, hlt⟩ := (Context.overruns_iff ha).1 h.overruns
  have hfits := Context.fitsFrom_of_not_overruns ha h.first
  obtain ⟨c', hbind⟩ : ∃ c', bindAll table l.group (before ++ b :: after) .empty c =
      .error (overrun stop buffer.size) c' := bindAll_overrun hc hs hfits htakes hg hb hstop hlt
  rw [← hl] at hbind
  exact ⟨c', bind_of_error hbind⟩

theorem Twin.overruns {before : List MergedBinding} {stop size : Nat} (ht : Twin c c')
    (h : c.Overruns table g before b stop size) : c'.Overruns table g before b stop size := by
  obtain ⟨id, buffer, rs, r, hb, htakes, hg, hr, hstop, hsize, hlt⟩ := h
  obtain ⟨buffer', hb', -, hsize'⟩ := ht.exists_buffer hb
  exact ⟨id, buffer', rs, r, hb', htakes, hg, ht.limits ▸ hr, hstop, hsize'.trans hsize, hlt⟩

theorem Twin.firstOverrun {before : List MergedBinding} {stop size : Nat} (ht : Twin c c')
    (h : c.FirstOverrun table g before b stop size) : c'.FirstOverrun table g before b stop size where
  overruns := ht.overruns h.overruns
  first before' b' after hsplit stop size h' :=
    h.first before' b' after hsplit stop size (ht.symm.overruns h')

/-- Bind groups are made up to one whose ranges leave a buffer. -/
theorem makeBindGroups_overrun (hc : c.Orderly) (ha : c.device.limits.Aligns) {l : GroupLayout}
    {pre post : List GroupLayout} {groups : List Nat} {c₁ : Context}
    (hpre : makeBindGroups table pre c = .ok groups c₁) {before after : List MergedBinding}
    (hl : l.group.bindings = before ++ b :: after)
    (hs : ∀ x ∈ before ++ [b], c.Supplies table x.name x.kind) {stop size : Nat}
    (h : c.FirstOverrun table l.group before b stop size) :
    ∃ c', makeBindGroups table (pre ++ l :: post) c = .error (overrun stop size) c' := by
  have ht := (makeBindGroups_touches pre).of_eq_ok hpre
  have htwin := Twin.of_touches hc.sound ht
  obtain ⟨c', hmake⟩ := makeBindGroup_overrun (hc.touches ht) (htwin.limits ▸ ha) hl
    (fun x hx => htwin.supplies (hs x hx)) (htwin.firstOverrun h)
  have hrest : (l :: post).mapM (makeBindGroup table) c₁ = .error (overrun stop size) c' := by
    rw [List.mapM_cons]
    exact bind_of_error hmake
  refine ⟨c', ?_⟩
  rw [makeBindGroups, List.mapM_append]
  exact (bind_of_ok hpre).trans (bind_of_error hrest)

/-! ## Leaving 64 bits -/

theorem cut_eq_overflow {limits : Limits} (h : cut limits buffer b cuts = .error .addressOverflow) :
    UInt64.size ≤ (b.rangeAfter limits ((cuts.get? buffer.id).getD 0)).stop := by
  unfold cut at h
  simp only [] at h
  split at h
  · assumption
  · split at h <;> cases h

theorem bindBuffer_overflow (hc : c.Orderly) (hb : c.buffers.get? id = some buffer)
    (h : bindBuffer table g b buffer cuts c = .error .addressOverflow c') :
    1 < (g.takers table id).length ∧
      UInt64.size ≤ (b.rangeAfter c.device.limits ((cuts.get? id).getD 0)).stop := by
  have hid : buffer.id = id := (hc.sound.buffers id buffer hb).1
  rcases bind_eq_error h with h | ⟨serial, c₁, hon, h⟩
  · rw [lift_apply] at h
    split at h <;> cases h
  · replace hon := lift_eq_ok.1 hon
    have ht := (Work.on_buffer_touches Buffer.handle_uses).of_eq_ok hon
    rw [hid, MergedGroup.references_eq] at h
    split at h
    · cases h
    · rw [context_bind, (Context.spared_of_touches ht).device.limits] at h
      rcases bind_eq_error h with h | ⟨range, c₂, -, h⟩
      · have hcut := cut_eq_overflow (liftExcept_eq_error.1 h).1
        rw [hid] at hcut
        exact ⟨by omega, hcut⟩
      · cases h

/-- Behind ranges that fit, the range for a binding of a shared buffer leaves 64 bits. -/
structure Context.Overflows (c : Context) (table : UniformTable) (g : MergedGroup)
    (before : List MergedBinding) (b : MergedBinding) (cuts : Cuts) (a : Assignment)
    (buffer : Buffer) : Prop where
  fits : c.FitsFrom table g before cuts
  assigned : table.assignment? b.name = some a
  role : a.role.isBoundBuffer
  registered : c.buffers.get? a.resource = some buffer
  takes : b.takes table a.resource
  shared : 1 < (g.takers table a.resource).length
  leaves : UInt64.size ≤ (b.rangeAfter c.device.limits (usedAfter c.device.limits
    ((cuts.get? a.resource).getD 0) (before.filter (MergedBinding.takes table a.resource)))).stop

theorem bindResource_overflow (hc : c.Orderly)
    (h : bindResource table g b cuts c = .error .addressOverflow c') :
    ∃ a buffer, c.Overflows table g [] b cuts a buffer := by
  unfold bindResource at h
  rw [context_bind] at h
  rcases bind_eq_error h with h | ⟨r, c₁, hr, h⟩
  · exact absurd rfl (resolve_lookup _ _ _ (liftExcept_eq_error.1 h).1).2
  · obtain ⟨hr, hsame⟩ := liftExcept_eq_ok.1 hr
    rw [hsame] at h
    obtain ⟨a, ha, hres⟩ := resolve_eq_ok hr
    cases r with
    | buffer buffer =>
      obtain ⟨hkind, hrole, hb⟩ := hres.of_buffer
      obtain ⟨hg, hstop⟩ := bindBuffer_overflow hc hb h
      have htakes : b.takes table a.resource := MergedBinding.takes_iff.2 ⟨hkind, a, ha, rfl⟩
      refine ⟨a, buffer, ?_, ha, hrole, hb, htakes, hg, hstop⟩
      exact fun _ _ _ _ _ hr => absurd hr List.not_mem_nil
    | texture t =>
      rcases bind_eq_error h with h | ⟨_, _, -, h⟩
      · rw [bindTexture_eq] at h
        rcases bind_eq_error h with h | ⟨_, _, -, h⟩
        · rw [lift_apply] at h
          split at h <;> cases h
        · cases h
      · cases h
    | sampler s =>
      rcases bind_eq_error h with h | ⟨_, _, -, h⟩
      · rw [lift_apply] at h
        split at h <;> cases h
      · cases h

/-- Binding leaves 64 bits only with the range of a shared buffer, behind ranges that fit. -/
theorem bindAll_overflow (hc : c.Orderly)
    (h : bindAll table g bs cuts c = .error .addressOverflow c') :
    ∃ before b after a buffer, bs = before ++ b :: after ∧
      c.Overflows table g before b cuts a buffer := by
  induction bs generalizing c cuts with
  | nil => cases h
  | cons x bs ih =>
    rcases bind_eq_error h with h | ⟨⟨bound, cuts'⟩, c₁, hbind, h⟩
    · obtain ⟨a, buffer, hover⟩ := bindResource_overflow hc h
      exact ⟨[], x, bs, a, buffer, rfl, hover⟩
    · have ht := (bindResource_touches g x cuts).of_eq_ok hbind
      have htwin := Twin.of_touches hc.sound ht
      obtain ⟨hsx, hcuts⟩ := (exists_bindResource_iff hc).1 ⟨bound, c₁, hbind⟩
      rcases bind_eq_error h with h | ⟨_, _, -, h⟩
      · obtain ⟨before, b, after, a, buffer₁, rfl, hover⟩ := ih (hc.touches ht) h
        obtain ⟨buffer, hb, -, -⟩ := htwin.symm.exists_buffer hover.registered
        refine ⟨x :: before, b, after, a, buffer, rfl, ?_, hover.assigned, hover.role, hb,
          hover.takes, hover.shared, ?_⟩
        · exact (fitsFrom_cons_iff hsx).2 ⟨cuts', hcuts, htwin.symm.fitsFrom hover.fits⟩
        · rw [hcuts.usedAfter_cons hover.shared, ← htwin.limits]
          exact hover.leaves
      · cases h

/-- What leaves 64 bits is behind a great many ranges, in a buffer of almost as many bytes. -/
theorem Context.Overflows.bounds (ha : c.device.limits.Aligns) {before after : List MergedBinding}
    {a : Assignment} (hl : g.bindings = before ++ b :: after)
    (hsize : ∀ b ∈ g.bindings, b.size.getD 0 < UInt32.size)
    (h : c.Overflows table g before b .empty a buffer) :
    2 ^ 31 < (g.takers table a.resource).length ∧ 2 ^ 64 - 2 ^ 33 < buffer.size := by
  have hlast := stop_rangeAfter_lt ha (hsize b (by simp [hl])) (usedAfter c.device.limits 0
    (before.filter (MergedBinding.takes table a.resource)))
  have hleaves := Nat.lt_of_le_of_lt h.leaves hlast
  constructor
  · have hsizes : ∀ x ∈ before.filter (MergedBinding.takes table a.resource),
        x.size.getD 0 < UInt32.size := fun x hx => hsize x (by simp [hl, (List.mem_filter.1 hx).1])
    have hused := usedAfter_le ha hsizes 0
    have hcount : (before.filter (MergedBinding.takes table a.resource)).length <
        (g.takers table a.resource).length := by
      rw [MergedGroup.takers, hl, List.filter_append, List.filter_cons_of_pos h.takes]
      simp
    simp only [UInt64.size, UInt32.size] at hused hleaves
    omega
  · have hused : usedAfter c.device.limits 0
        (before.filter (MergedBinding.takes table a.resource)) ≤ buffer.size := by
      rcases usedAfter_eq_or_mem c.device.limits 0
        (before.filter (MergedBinding.takes table a.resource)) with hnil | ⟨r, hr, heq⟩
      · rw [hnil]
        exact Nat.zero_le _
      · rw [heq]
        exact h.fits a.resource buffer h.registered h.shared r hr
    simp only [UInt64.size, UInt32.size] at hleaves
    omega

/-- What takes the role of a bound buffer is limited by 32-bit numbers. -/
theorem BufferKind.sizeLimit_lt {limits : Limits} {k : BufferKind} {n : Nat}
    (huniform : limits.maxUniformBufferBindingSize < n)
    (hstorage : limits.maxStorageBufferBindingSize < n) (h : k.role.isBoundBuffer) :
    k.sizeLimit limits < n := by
  cases k with
  | vertex | index => exact nomatch h
  | uniform => exact huniform
  | storage | indexedStorage | indirect | indexedIndirect | map => exact hstorage

/-- What leaves 64 bits is a range of a shared buffer, behind ranges that fit. -/
theorem makeBindGroups_overflow (hc : c.Orderly) {layouts : List GroupLayout}
    (h : makeBindGroups table layouts c = .error .addressOverflow c') :
    ∃ l ∈ layouts, ∃ before b after a buffer, l.group.bindings = before ++ b :: after ∧
      c.Overflows table l.group before b .empty a buffer := by
  obtain ⟨l, hl, c₁, ht, h⟩ := mapM_eq_error makeBindGroup_touches h
  have htwin := Twin.of_touches hc.sound ht
  rcases bind_eq_error h with h | ⟨entries, c₂, -, h⟩
  · obtain ⟨before, b, after, a, buffer₁, hsplit, hover⟩ := bindAll_overflow (hc.touches ht) h
    obtain ⟨buffer, hb, -, -⟩ := htwin.symm.exists_buffer hover.registered
    refine ⟨l, hl, before, b, after, a, buffer, hsplit, htwin.symm.fitsFrom hover.fits,
      hover.assigned, hover.role, hb, hover.takes, hover.shared, ?_⟩
    rw [← htwin.limits]
    exact hover.leaves
  · split at h <;> cases h

/-- If everything is assigned as what it is, bound buffers are too small for that. -/
theorem Context.Overflows.size_lt (hc : c.Orderly) (hbag : table.assignments.OfResources c)
    (huniform : c.device.limits.maxUniformBufferBindingSize < UInt32.size)
    (hstorage : c.device.limits.maxStorageBufferBindingSize < UInt32.size)
    {before : List MergedBinding} {a : Assignment}
    (h : c.Overflows table g before b cuts a buffer) : buffer.size < UInt32.size := by
  have hrole := (hbag _ _ h.assigned).role_of_buffer hc.sound h.role h.registered
  have hlimit := BufferKind.sizeLimit_lt huniform hstorage (hrole ▸ h.role)
  exact Nat.lt_trans (hc.checked.buffers _ _ h.registered) hlimit

/-- **How bind groups share buffers.** In a context that operations lead to, on a device whose limits for
sizes are 64-bit numbers and whose alignments are positive 32-bit numbers, for any layouts and uniforms:

* Where bind groups are made, each binds a buffer that one of its bindings takes whole, and cuts one that
  more of them take into ranges behind each other, in the order of the bindings. The ranges depend on the
  bindings of the group that take this buffer and on nothing else.
* Otherwise, if a range behind supplied bindings would leave its buffer in the first group that is not
  made, the first such range fails with its end and the size of that buffer.
* If the sizes that the shaders know are 32-bit numbers, no end leaves 64 bits where everything is
  assigned as what it is. Whatever is assigned, it takes more than 2^31 bindings of a buffer of more than
  2^64 - 2^33 bytes. For records of that kind this says less than that no step leaves 64 bits: a vertex
  buffer that is assigned in the role of a storage buffer can have any size, and a group any number of
  bindings.
* The bindings of merged groups, and so those that take a buffer, are in the order of their slots. -/
theorem sharing_spec (hc : c.Reachable)
    (hl : ∀ k : BufferKind, k.sizeLimit c.device.limits ≤ UInt64.size)
    (ha : c.device.limits.Aligns) (table : UniformTable) (layouts : List GroupLayout) :
    (∀ groups c', makeBindGroups table layouts c = .ok groups c' →
      List.Forall₂ (fun l serial => ∃ entries, GroupShares c c' table l serial entries) layouts
        groups) ∧
    (∀ pre l post, layouts = pre ++ l :: post →
      (∃ groups c₁, makeBindGroups table pre c = .ok groups c₁) →
      ∀ before b after, l.group.bindings = before ++ b :: after →
        (∀ x ∈ before ++ [b], c.Supplies table x.name x.kind) →
        (∃ stop size, c.Overruns table l.group before b stop size) →
        ∃ before' b' after' stop size c', l.group.bindings = before' ++ b' :: after' ∧
          c.FirstOverrun table l.group before' b' stop size ∧
          makeBindGroups table layouts c = .error (overrun stop size) c') ∧
    ((∀ l ∈ layouts, ∀ b ∈ l.group.bindings, b.size.getD 0 < UInt32.size) →
      ∀ c', makeBindGroups table layouts c = .error .addressOverflow c' →
        ¬(table.assignments.OfResources c ∧
          c.device.limits.maxUniformBufferBindingSize < UInt32.size ∧
          c.device.limits.maxStorageBufferBindingSize < UInt32.size) ∧
        ∃ l ∈ layouts, ∃ id buffer, c.buffers.get? id = some buffer ∧
          2 ^ 31 < (l.group.takers table id).length ∧ 2 ^ 64 - 2 ^ 33 < buffer.size) ∧
    ∀ stages limit, merge stages limit = .ok (layouts.map GroupLayout.group) →
      ∀ l ∈ layouts, ∀ id,
        ((l.group.takers table id).map MergedBinding.binding).Pairwise (· < ·) := by
  have horderly : c.Orderly := ⟨hc.sound, hc.checked, hl⟩
  refine ⟨fun groups c' h => makeBindGroups_shares horderly ha h, ?_, ?_, ?_⟩
  · rintro pre l post rfl ⟨groups, c₁, hpre⟩ before b after hsplit hs ⟨stop, size, hover⟩
    -- The first overrun of the group is at `b` or before it, and it is the one that is reported.
    obtain ⟨before', b', rest, stop', size', heq, hfirst⟩ := hover.exists_first
    have hsplit' : l.group.bindings = before' ++ b' :: (rest ++ after) := by
      calc l.group.bindings = (before ++ [b]) ++ after := by simp [hsplit]
        _ = before' ++ b' :: (rest ++ after) := by simp [heq]
    have hs' : ∀ x ∈ before' ++ [b'], c.Supplies table x.name x.kind := fun x hx => hs x (by
      rw [heq, List.mem_append, List.mem_cons]
      rcases List.mem_append.1 hx with hx | hx
      · exact .inl hx
      · exact .inr (.inl (List.mem_singleton.1 hx)))
    obtain ⟨c', h⟩ : ∃ c', makeBindGroups table (pre ++ l :: post) c =
        .error (overrun stop' size') c' :=
      makeBindGroups_overrun horderly ha hpre hsplit' hs' hfirst
    exact ⟨before', b', rest ++ after, stop', size', c', hsplit', hfirst, h⟩
  · intro hsize c' h
    obtain ⟨l, hl, before, b, after, a, buffer, hsplit, hover⟩ := makeBindGroups_overflow horderly h
    obtain ⟨hmany, hlarge⟩ := hover.bounds ha hsplit (hsize l hl)
    refine ⟨fun ⟨hbag, huniform, hstorage⟩ => ?_, l, hl, a.resource, buffer, hover.registered, hmany,
      hlarge⟩
    -- Its own kind limits the buffer to less than what the overflow needs.
    have hsmall := hover.size_lt horderly hbag huniform hstorage
    simp only [UInt32.size] at hsmall
    omega
  · intro stages limit hmerge l hl id
    rw [List.pairwise_map]
    exact (List.pairwise_map.1 (slots_of_merge hmerge (List.mem_map_of_mem hl))).filter _

namespace SharedBuffer

/-- The layout of two storage bindings of 16 bytes. -/
def layout : GroupLayout where
  group := ⟨0, [⟨"before", 0, .storageBuffer true, some 16, { compute := true }⟩,
    ⟨"after", 1, .storageBuffer false, some 16, { compute := true }⟩]⟩
  entries := [⟨0, { compute := true }, .storageBuffer true (some 16)⟩,
    ⟨1, { compute := true }, .storageBuffer false (some 16)⟩]
  layout := 0

/-- The ranges that are cut for them: the second one is aligned to 256 bytes. -/
def entries : List GroupEntry := [⟨0, .buffer 3 0 (some 16)⟩, ⟨1, .buffer 3 256 (some 16)⟩]

/-- The entries of the bind groups that a device has made. -/
def made (d : Device) : List (List GroupEntry) := d.trace.filterMap fun
  | .bindGroupCreated _ _ _ entries => some entries
  | _ => none

end SharedBuffer

/-- A buffer of 512 bytes is cut into two ranges. -/
theorem sharing_sharedBuffer :
    ∃ serial c', makeBindGroups ⟨SharedBuffer.pass.uniforms⟩ [SharedBuffer.layout]
        SharedBuffer.context = .ok [serial] c' ∧
      GroupShares SharedBuffer.context c' ⟨SharedBuffer.pass.uniforms⟩ SharedBuffer.layout serial
        SharedBuffer.entries := by
  have ha : SharedBuffer.context.device.limits.Aligns := by
    have hlimits : SharedBuffer.context.device.limits = {} := by cbv
    rw [hlimits]
    exact ⟨by decide, by decide⟩
  obtain ⟨hshares, -⟩ := sharing_spec SharedBuffer.reachable SharedBuffer.limits ha
    ⟨SharedBuffer.pass.uniforms⟩ [SharedBuffer.layout]
  have hout : (outcome (makeBindGroups ⟨SharedBuffer.pass.uniforms⟩ [SharedBuffer.layout])
      SharedBuffer.context).map List.length = .ok 1 := by cbv
  have hmade : SharedBuffer.made (after (makeBindGroups ⟨SharedBuffer.pass.uniforms⟩
      [SharedBuffer.layout]) SharedBuffer.context).device = [SharedBuffer.entries] := by cbv
  cases h : makeBindGroups ⟨SharedBuffer.pass.uniforms⟩ [SharedBuffer.layout]
      SharedBuffer.context with
  | error e c' =>
    rw [outcome_error h] at hout
    cases hout
  | ok groups c' =>
    cases hshares groups c' h with
    | cons hgroup hrest =>
      cases hrest
      obtain ⟨entries, hentries⟩ := hgroup
      rw [after_ok h] at hmade
      have hmem : entries ∈ SharedBuffer.made c'.device :=
        List.mem_filterMap.2 ⟨_, hentries.made, rfl⟩
      rw [hmade, List.mem_singleton] at hmem
      exact ⟨_, c', rfl, hmem ▸ hentries⟩

end PassForge
