import PassForge.Proofs.Pass.Accept
import PassForge.Proofs.Pass.Ranges

/-!
# How bind groups share buffers

A bind group binds a buffer whole if one of its bindings takes it, and cuts it into ranges if more do.
The cuts of all buffers go through one loop over the bindings, but what is cut from one buffer depends on
the bindings that take it and on nothing else.

* `takenEntries` are the entries of the bindings that take a buffer. `Context.BindsBuffer` says what they
  are, for a buffer that no binding, one or more of them take.
* `Context.CutsTo.used`: what one binding adds to the cuts of a shared buffer is the end of its range, and
  `bindResource_bound` is what it binds.
* `bindAll_taken` follows one buffer through the loop, and `bindAll_has` yields its device buffer;
  `bindAll_bindsBuffer` puts them together.
* `GroupShares` says it of all buffers of a group, and `makeBindGroups_shares` proves it of all groups.
-/

namespace PassForge

open Context (Touch)
open Relation (ReflTransGen)

variable {c c' : Context} {table : UniformTable} {g : MergedGroup} {b : MergedBinding}
  {bs : List MergedBinding} {cuts cuts' : Cuts} {id : ResourceId} {buffer : Buffer}
  {bound : BoundResource} {entries : List GroupEntry}

/-! ## Entries of a buffer -/

/-- A range of a device buffer, bound. An empty range stands for all that follows. -/
def BufferRange.resource (r : BufferRange) (serial : Nat) : BoundResource :=
  .buffer serial r.offset (if r.size = 0 then none else some r.size)

/-- The entries of the bindings that take a buffer. -/
def takenEntries (table : UniformTable) (id : ResourceId) (bs : List MergedBinding)
    (entries : List GroupEntry) : List GroupEntry :=
  ((bs.zip entries).filter fun p => p.1.takes table id).map Prod.snd

theorem takenEntries_cons_of_takes (h : b.takes table id) (e : GroupEntry) :
    takenEntries table id (b :: bs) (e :: entries) = e :: takenEntries table id bs entries := by
  simp [takenEntries, h]

theorem takenEntries_cons_of_not (h : ¬b.takes table id) (e : GroupEntry) :
    takenEntries table id (b :: bs) (e :: entries) = takenEntries table id bs entries := by
  simp [takenEntries, h]

theorem takenEntries_eq_nil (h : bs.filter (MergedBinding.takes table id) = [])
    (entries : List GroupEntry) : takenEntries table id bs entries = [] := by
  rw [takenEntries, List.map_eq_nil_iff, List.filter_eq_nil_iff]
  exact fun p hp => List.filter_eq_nil_iff.1 h p.1 (List.of_mem_zip hp).1

/-- What a bind group with some entries binds of a buffer. -/
inductive Context.BindsBuffer (c : Context) (table : UniformTable) (g : MergedGroup)
    (entries : List GroupEntry) (id : ResourceId) (buffer : Buffer) : Prop
  | unused (h : g.takers table id = []) (he : takenEntries table id g.bindings entries = [])
  /-- A buffer that one binding takes is bound whole. -/
  | whole {b : MergedBinding} {serial : Nat} (h : g.takers table id = [b])
      (hs : c.HasBuffer id buffer.kind serial)
      (he : takenEntries table id g.bindings entries = [⟨b.binding, .buffer serial 0 none⟩])
  /-- A buffer that more bindings take is cut into ranges, in their order. -/
  | shared {rs : List BufferRange} {serial : Nat} (h : 1 < (g.takers table id).length)
      (hs : c.HasBuffer id buffer.kind serial)
      (hr : Slices c.device.limits buffer.size (g.takers table id) rs)
      (he : takenEntries table id g.bindings entries =
        List.zipWith (fun b r => ⟨b.binding, r.resource serial⟩) (g.takers table id) rs)

/-! ## Binding -/

theorem Context.HasBuffer.serial_eq {kind kind' : BufferKind} {serial serial' : Nat}
    (h : c.HasBuffer id kind serial) (h' : c.HasBuffer id kind' serial') : serial' = serial := by
  obtain ⟨b, hb, -, hs, -⟩ := h
  obtain ⟨b', hb', -, hs', -⟩ := h'
  cases hb.symm.trans hb'
  exact Option.some.inj (hs'.symm.trans hs)

/-- A twin has the same buffer, with or without a device buffer. -/
theorem Twin.exists_buffer (h : Twin c c') (hb : c.buffers.get? id = some buffer) :
    ∃ buffer', c'.buffers.get? id = some buffer' ∧ buffer'.kind = buffer.kind ∧
      buffer'.size = buffer.size := by
  obtain ⟨buffer', hb', heq⟩ := Store.exists_of_map h.buffers hb
  exact ⟨buffer', hb', (congrArg Buffer.kind heq : buffer'.bare.kind = buffer.bare.kind),
    (congrArg Buffer.size heq : buffer'.bare.size = buffer.bare.size)⟩

/-- What a binding adds to the cuts of a shared buffer is the end of its range. -/
theorem Context.CutsTo.used (h : c.CutsTo table g b cuts cuts')
    (hg : 1 < (g.takers table id).length) : (cuts'.get? id).getD 0 =
      usedAfter c.device.limits ((cuts.get? id).getD 0) ([b].filter (MergedBinding.takes table id)) := by
  cases h with
  | whole hwhole =>
    have hnot : ¬b.takes table id := fun htakes => by
      have := hwhole id htakes
      omega
    rw [List.filter_cons_of_neg hnot]
    rfl
  | @range id' buffer htakes =>
    rw [SortedMap.get?_insert]
    by_cases hid : id = id'
    · subst hid
      rw [if_pos rfl, List.filter_cons_of_pos htakes]
      rfl
    · have hnot : ¬b.takes table id := fun h' => hid (MergedBinding.eq_of_takes htakes h')
      rw [if_neg hid, List.filter_cons_of_neg hnot]
      rfl

/-- Where the ranges of some bindings end does not depend on when the first of them is cut. -/
theorem Context.CutsTo.usedAfter_cons (h : c.CutsTo table g b cuts cuts')
    (hg : 1 < (g.takers table id).length) :
    usedAfter c.device.limits ((cuts.get? id).getD 0)
        ((b :: bs).filter (MergedBinding.takes table id)) =
      usedAfter c.device.limits ((cuts'.get? id).getD 0)
        (bs.filter (MergedBinding.takes table id)) := by
  rw [h.used hg, usedAfter, usedAfter, usedAfter, ← List.foldl_append, ← List.filter_append]
  rfl

theorem bindBuffer_bound (hc : c.Orderly) (hb : c.buffers.get? id = some buffer)
    (h : bindBuffer table g b buffer cuts c = .ok (bound, cuts') c') :
    ∃ serial, c'.HasBuffer id buffer.kind serial ∧ bound =
      if 1 < (g.takers table id).length then
        (b.rangeAfter c.device.limits ((cuts.get? id).getD 0)).resource serial
      else .buffer serial 0 none := by
  have hid : buffer.id = id := (hc.sound.buffers id buffer hb).1
  obtain ⟨serial, c₁, hon, h⟩ := bind_eq_ok h
  replace hon := lift_eq_ok.1 hon
  rw [hid] at hon
  have ht : ReflTransGen Touch c c₁ := (Work.on_buffer_touches Buffer.handle_uses).of_eq_ok hon
  have hhas := on_bufferHandle hc.sound hb hon
  rw [hid, MergedGroup.references_eq] at h
  refine ⟨serial, ?_⟩
  split at h
  · cases h
    rw [if_neg (by omega)]
    exact ⟨hhas, rfl⟩
  · rw [context_bind, (Context.spared_of_touches ht).device.limits] at h
    obtain ⟨⟨range, cuts₁⟩, hcut, h⟩ := liftExcept_bind_eq_ok h
    cases h
    obtain ⟨rfl, -, -⟩ := (cut_eq_ok_iff (hc.size_lt hb)).1 hcut
    have hg : 1 < (g.takers table id).length := by omega
    rw [if_pos hg, hid]
    exact ⟨hhas, rfl⟩

/-- What is bound for a binding that takes a buffer. -/
theorem bindResource_bound (hc : c.Orderly) (htakes : b.takes table id)
    (hb : c.buffers.get? id = some buffer)
    (h : bindResource table g b cuts c = .ok (bound, cuts') c') :
    ∃ serial, c'.HasBuffer id buffer.kind serial ∧ bound =
      if 1 < (g.takers table id).length then
        (b.rangeAfter c.device.limits ((cuts.get? id).getD 0)).resource serial
      else .buffer serial 0 none := by
  unfold bindResource at h
  rw [context_bind] at h
  obtain ⟨r, hr, h⟩ := liftExcept_bind_eq_ok h
  obtain ⟨a, ha, hres⟩ := resolve_eq_ok hr
  obtain ⟨hkind, a', ha', rfl⟩ := MergedBinding.takes_iff.1 htakes
  cases ha.symm.trans ha'
  obtain ⟨buffer', rfl, hget⟩ := hres.exists_buffer hkind
  cases hget.symm.trans hb
  exact bindBuffer_bound hc hb h

/-- The entries that binding some bindings yields for a buffer, after what has been cut from it. -/
theorem bindAll_taken (hc : c.Orderly) (hb : c.buffers.get? id = some buffer)
    (h : bindAll table g bs cuts c = .ok entries c') {kind : BufferKind} {serial : Nat}
    (hs : c'.HasBuffer id kind serial) : takenEntries table id bs entries =
      if 1 < (g.takers table id).length then
        List.zipWith (fun b r => ⟨b.binding, r.resource serial⟩)
          (bs.filter (MergedBinding.takes table id))
          (packed c.device.limits ((cuts.get? id).getD 0) (bs.filter (MergedBinding.takes table id)))
      else (bs.filter (MergedBinding.takes table id)).map fun b =>
        ⟨b.binding, .buffer serial 0 none⟩ := by
  induction bs generalizing c cuts buffer entries with
  | nil =>
    cases h
    simp [takenEntries, packed]
  | cons b bs ih =>
    obtain ⟨⟨bound, cuts'⟩, c₁, hbind, h₁⟩ := bind_eq_ok h
    obtain ⟨rest, c₂, hrest, h₂⟩ := bind_eq_ok h₁
    cases h₂
    have ht := (bindResource_touches g b cuts).of_eq_ok hbind
    have ht' := (bindAll_touches g bs cuts').of_eq_ok hrest
    have htwin := Twin.of_touches hc.sound ht
    obtain ⟨buffer₁, hb₁, -, -⟩ := htwin.exists_buffer hb
    obtain ⟨-, hcuts⟩ := (exists_bindResource_iff hc).1 ⟨bound, c₁, hbind⟩
    have hrest' := ih (hc.touches ht) hb₁ hrest
    rw [htwin.limits] at hrest'
    -- a binding of another buffer has no entry here and leaves the cuts of this buffer alone
    by_cases htakes : b.takes table id
    · obtain ⟨serial₁, hs₁, hbound⟩ := bindResource_bound hc htakes hb hbind
      cases (hs₁.later (Context.retains_of_touches ht')).serial_eq hs
      rw [takenEntries_cons_of_takes htakes, hrest', List.filter_cons_of_pos htakes, hbound]
      by_cases hg : 1 < (g.takers table id).length
      · simp only [if_pos hg, hcuts.used hg, List.filter_cons_of_pos htakes, List.filter_nil]
        rfl
      · simp only [if_neg hg, List.map_cons]
    · rw [takenEntries_cons_of_not htakes, hrest', List.filter_cons_of_neg htakes]
      by_cases hg : 1 < (g.takers table id).length
      · simp only [if_pos hg, hcuts.used hg, List.filter_cons_of_neg htakes, List.filter_nil]
        rfl
      · simp only [if_neg hg]

/-- A buffer that some binding takes has a device buffer in the end. -/
theorem bindAll_has (hc : c.Orderly) (hb : c.buffers.get? id = some buffer)
    (h : bindAll table g bs cuts c = .ok entries c') (htakes : ∃ b ∈ bs, b.takes table id) :
    ∃ serial, c'.HasBuffer id buffer.kind serial := by
  induction bs generalizing c cuts buffer entries with
  | nil => simp at htakes
  | cons b bs ih =>
    obtain ⟨⟨bound, cuts'⟩, c₁, hbind, h₁⟩ := bind_eq_ok h
    obtain ⟨rest, c₂, hrest, h₂⟩ := bind_eq_ok h₁
    cases h₂
    have ht := (bindResource_touches g b cuts).of_eq_ok hbind
    have ht' := (bindAll_touches g bs cuts').of_eq_ok hrest
    obtain ⟨b', hb', htakes'⟩ := htakes
    rcases List.mem_cons.1 hb' with rfl | hmem
    · obtain ⟨serial, hs, -⟩ := bindResource_bound hc htakes' hb hbind
      exact ⟨serial, hs.later (Context.retains_of_touches ht')⟩
    · obtain ⟨buffer₁, hb₁, hkind, -⟩ := (Twin.of_touches hc.sound ht).exists_buffer hb
      obtain ⟨serial, hs⟩ := ih (hc.touches ht) hb₁ hrest ⟨b', hmem, htakes'⟩
      exact ⟨serial, hkind ▸ hs⟩

/-! ## Groups -/

/-- A bind group of a layout, made with some entries: one for each binding, and those of each buffer as
the group shares it. -/
structure GroupShares (c₀ c : Context) (table : UniformTable) (l : GroupLayout) (serial : Nat)
    (entries : List GroupEntry) : Prop where
  made : .bindGroupCreated serial ("bind group " ++ toString l.group.index) l.layout entries ∈
    c.device.trace
  slots : entries.map GroupEntry.binding = l.group.bindings.map MergedBinding.binding
  shares : ∀ id buffer, c₀.buffers.get? id = some buffer →
    c.BindsBuffer table l.group entries id buffer

theorem Context.BindsBuffer.later (h : c.BindsBuffer table g entries id buffer)
    (hc : ReflTransGen Touch c c') : c'.BindsBuffer table g entries id buffer := by
  have hlater := Context.retains_of_touches hc
  cases h with
  | unused h he => exact .unused h he
  | whole h hs he => exact .whole h (hs.later hlater) he
  | shared h hs hr he =>
    rw [← (Context.spared_of_touches hc).device.limits] at hr
    exact .shared h (hs.later hlater) hr he

/-- Only the kind and the size of the buffer matter. -/
theorem Context.BindsBuffer.congr {buffer' : Buffer} (h : c.BindsBuffer table g entries id buffer)
    (hkind : buffer.kind = buffer'.kind) (hsize : buffer.size = buffer'.size) :
    c.BindsBuffer table g entries id buffer' := by
  cases h with
  | unused h he => exact .unused h he
  | whole h hs he => exact .whole h (hkind ▸ hs) he
  | shared h hs hr he => exact .shared h (hkind ▸ hs) (hsize ▸ hr) he

/-- What binding all bindings of a group does with one buffer. -/
theorem bindAll_bindsBuffer (hc : c.Orderly) (ha : c.device.limits.Aligns)
    (hb : c.buffers.get? id = some buffer)
    (h : bindAll table g g.bindings .empty c = .ok entries c') :
    c'.BindsBuffer table g entries id buffer := by
  have hlimits := (Context.spared_of_touches ((bindAll_touches g _ _).of_eq_ok h)).device.limits
  have htaken {serial : Nat} (hs : c'.HasBuffer id buffer.kind serial) := bindAll_taken hc hb h hs
  rcases Nat.lt_trichotomy (g.takers table id).length 1 with hnone | hone | hmany
  · have hnil : g.takers table id = [] := List.length_eq_zero_iff.1 (by omega)
    exact .unused hnil (takenEntries_eq_nil hnil entries)
  · obtain ⟨b, hb'⟩ := List.length_eq_one_iff.1 hone
    have hmem : b ∈ g.takers table id := by simp [hb']
    obtain ⟨serial, hs⟩ := bindAll_has hc hb h ⟨b, List.mem_filter.1 hmem⟩
    refine .whole hb' hs ?_
    rw [htaken hs, if_neg (by omega)]
    exact congrArg (List.map _) hb'
  · obtain ⟨b, hb'⟩ := List.exists_mem_of_length_pos (Nat.lt_trans Nat.zero_lt_one hmany)
    obtain ⟨serial, hs⟩ := bindAll_has hc hb h ⟨b, List.mem_filter.1 hb'⟩
    obtain ⟨-, hfits⟩ := (exists_bindAll_iff hc).1 ⟨entries, c', h⟩
    refine .shared hmany hs (PackedFrom.slices ?_ (hfits id buffer hb hmany)) ?_
    · rw [hlimits]
      exact packedFrom_packed ha _ _
    · rw [htaken hs, if_pos hmany]
      rfl

theorem bindAll_slots (h : bindAll table g bs cuts c = .ok entries c') :
    entries.map GroupEntry.binding = bs.map MergedBinding.binding := by
  induction bs generalizing c cuts entries with
  | nil =>
    cases h
    rfl
  | cons b bs ih =>
    obtain ⟨r, c₁, -, h₁⟩ := bind_eq_ok h
    obtain ⟨rest, c₂, hrest, h₂⟩ := bind_eq_ok h₁
    cases h₂
    rw [List.map_cons, List.map_cons, ih hrest]

theorem makeBindGroup_shares (hc : c.Orderly) (ha : c.device.limits.Aligns) {l : GroupLayout}
    {serial : Nat} (h : makeBindGroup table l c = .ok serial c') :
    ∃ entries, GroupShares c c' table l serial entries := by
  obtain ⟨entries, c₁, hall, h₁⟩ := bind_eq_ok h
  split at h₁
  · cases h₁
  · cases h₁
    refine ⟨entries, List.mem_append_right _ (List.mem_singleton_self _), bindAll_slots hall, ?_⟩
    intro id buffer hb
    exact (bindAll_bindsBuffer hc ha hb hall).later (.single (Touch.group _ _ _))

theorem makeBindGroups_shares (hc : c.Orderly) (ha : c.device.limits.Aligns)
    {layouts : List GroupLayout} {groups : List Nat}
    (h : makeBindGroups table layouts c = .ok groups c') :
    List.Forall₂ (fun l serial => ∃ entries, GroupShares c c' table l serial entries) layouts
      groups := by
  refine forall₂_of_mapM (I := ReflTransGen Touch c)
    (P := fun l serial c' => ∃ entries, GroupShares c c' table l serial entries)
    makeBindGroup_touches (fun _ _ ht hreach => hreach.trans ht) ?_ ?_ .refl h
  · rintro l serial c₁ c₂ ht ⟨entries, hshares⟩
    refine ⟨entries, (Context.retains_of_touches ht).later.mem hshares.made, hshares.slots, ?_⟩
    exact fun id buffer hb => (hshares.shares id buffer hb).later ht
  · intro l _ c₁ serial c₂ hreach hmake
    have htwin := Twin.of_touches hc.sound hreach
    obtain ⟨entries, hshares⟩ := makeBindGroup_shares (hc.touches hreach) (htwin.limits ▸ ha) hmake
    refine ⟨entries, hshares.made, hshares.slots, fun id buffer hb => ?_⟩
    obtain ⟨buffer₁, hb₁, hkind, hsize⟩ := htwin.exists_buffer hb
    exact (hshares.shares id buffer₁ hb₁).congr hkind hsize

end PassForge
