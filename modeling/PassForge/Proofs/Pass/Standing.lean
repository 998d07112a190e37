import PassForge.Proofs.Pass.Compatible
import PassForge.Proofs.Resource.TextureAgain

/-!
# Checks that stand

The checks of compiling read what no step can change about a resource. So a check that succeeds in a
context succeeds in every later one, with the same result.

* `Draw.check_stands`, `Dispatch.check_stands`, `vertexState_stands`: checks that read buffers alone.
* `resolve_stands`: what stands behind a binding is the same but for what steps change;
  `layoutEntries_stand`: so the layout entries are the same.
* `colorTargets_stand`, `depthState_stands`, `Context.Reflects.stands`: the other checks.
-/

namespace PassForge

open Context (Lasting)

variable {c c' : Context} {id : ResourceId} {table : UniformTable} {group : Nat} {b : MergedBinding}

/-! ## Buffers -/

section Buffers

variable (hc : Lasting c c')
include hc

theorem Draw.checkIndex_stands (h : checkIndex c.buffers id = .ok ()) :
    checkIndex c'.buffers id = .ok () := by
  obtain ⟨buffer, hb, h⟩ := bind_eq_ok_iff.1 h
  obtain ⟨buffer', hb', hfixed⟩ := hc.fixedBuffer (Store.require_eq_ok_iff.1 hb)
  have hkind : buffer'.kind = buffer.kind := (congrArg Buffer.kind hfixed :)
  refine bind_eq_ok_iff.2 ⟨buffer', Store.require_eq_ok_iff.2 hb', ?_⟩
  rwa [hkind]

theorem Draw.checkArguments_stands {kind : BufferKind} {count : Nat}
    (h : checkArguments c.buffers kind id count = .ok ()) :
    checkArguments c'.buffers kind id count = .ok () := by
  obtain ⟨buffer, hb, h⟩ := bind_eq_ok_iff.1 h
  obtain ⟨buffer', hb', hfixed⟩ := hc.fixedBuffer (Store.require_eq_ok_iff.1 hb)
  have hkind : buffer'.kind = buffer.kind := (congrArg Buffer.kind hfixed :)
  have hsize : buffer'.size = buffer.size := (congrArg Buffer.size hfixed :)
  refine bind_eq_ok_iff.2 ⟨buffer', Store.require_eq_ok_iff.2 hb', ?_⟩
  rwa [hkind, hsize]

theorem Draw.check_stands {d : Draw} (h : d.check c.buffers = .ok ()) :
    d.check c'.buffers = .ok () := by
  obtain ⟨hindex, harguments⟩ := check_eq_ok_iff.1 h
  exact check_eq_ok_iff.2 ⟨fun id hid => checkIndex_stands hc (hindex id hid),
    fun p hp => checkArguments_stands hc (harguments p hp)⟩

theorem Dispatch.check_stands {d : Dispatch} {limits : Limits}
    (h : d.check c.buffers limits = .ok ()) : d.check c'.buffers limits = .ok () := by
  cases d with
  | workgroups => exact h
  | indirect id offset =>
    obtain ⟨buffer, hb, h⟩ := bind_eq_ok_iff.1 h
    obtain ⟨buffer', hb', hfixed⟩ := hc.fixedBuffer (Store.require_eq_ok_iff.1 hb)
    have hkind : buffer'.kind = buffer.kind := (congrArg Buffer.kind hfixed :)
    have hsize : buffer'.size = buffer.size := (congrArg Buffer.size hfixed :)
    refine bind_eq_ok_iff.2 ⟨buffer', Store.require_eq_ok_iff.2 hb', ?_⟩
    rwa [hkind, hsize]

theorem vertexState_stands {inputs : List VertexInput} {t : AttributeTable} {v : VertexState}
    (h : vertexState inputs t c.buffers = .ok v) : vertexState inputs t c'.buffers = .ok v := by
  obtain ⟨feeds, hfeeds, h⟩ := bind_eq_ok_iff.1 h
  obtain ⟨found, hfound, h⟩ := bind_eq_ok_iff.1 h
  have hall : ∀ id ∈ (feeds.map VertexFeed.buffer).eraseDups,
      ∃ buffer', c'.buffers.require id = .ok buffer' := by
    intro id hid
    obtain ⟨buffer, hb⟩ := exists_mapM_eq_ok_iff.1 ⟨found, hfound⟩ id hid
    obtain ⟨buffer', hb', -⟩ := hc.fixedBuffer (Store.require_eq_ok_iff.1 hb)
    exact ⟨buffer', Store.require_eq_ok_iff.2 hb'⟩
  obtain ⟨found', hfound'⟩ := exists_mapM_eq_ok_iff.2 hall
  exact bind_eq_ok_iff.2 ⟨feeds, hfeeds, bind_eq_ok_iff.2 ⟨found', hfound', h⟩⟩

end Buffers

/-! ## Bindings -/

/-- What stands behind a binding, without what steps may change about it. -/
def Resolved.fixed : Resolved → Resolved
  | .buffer b => .buffer b.fixed
  | .texture t => .texture t.fixed
  | .sampler s => .sampler s.bare

theorem Resolves.stands {a : Assignment} {k : ResourceKind} {r : Resolved} (h : Resolves c a k r)
    (hc : Lasting c c') : ∃ r', Resolves c' a k r' ∧ r'.fixed = r.fixed := by
  cases h with
  | uniformBuffer hr h =>
    obtain ⟨buffer', hb', hfixed⟩ := hc.fixedBuffer h
    exact ⟨_, .uniformBuffer hr hb', congrArg Resolved.buffer hfixed⟩
  | storageBuffer hr h hk =>
    obtain ⟨buffer', hb', hfixed⟩ := hc.fixedBuffer h
    have hkind := congrArg Buffer.kind hfixed
    exact ⟨_, .storageBuffer hr hb' (hkind.trans_ne hk), congrArg Resolved.buffer hfixed⟩
  | texture h hr =>
    obtain ⟨t', ht', hfixed⟩ := hc.fixedTexture h
    exact ⟨_, .texture ht' hr, congrArg Resolved.texture hfixed⟩
  | storageTexture h hr =>
    obtain ⟨t', ht', hfixed⟩ := hc.fixedTexture h
    exact ⟨_, .storageTexture ht' hr, congrArg Resolved.texture hfixed⟩
  | sampler h hk hr =>
    obtain ⟨s', hs', hbare⟩ := hc.bareSampler h
    have hkind : s'.kind = _ := (congrArg Sampler.kind hbare :)
    exact ⟨_, .sampler hs' (hkind ▸ hk) hr, congrArg Resolved.sampler hbare⟩

theorem Resolves.texture_id {a : Assignment} {k : ResourceKind} {t : Texture}
    (h : Resolves c a k (.texture t)) (hc : c.Sound) : t.id = a.resource := by
  cases h with
  | texture h | storageTexture h => exact (hc.textures _ t h).1

/-- Behind a binding stands the same resource, as far as no step changes it. -/
theorem resolve_stands {r : Resolved} (h : resolve c table group b = .ok r) (hc : Lasting c c') :
    ∃ r', resolve c' table group b = .ok r' ∧ r'.fixed = r.fixed := by
  obtain ⟨a, ha, hres⟩ := resolve_eq_ok h
  obtain ⟨r', hres', hfixed⟩ := hres.stands hc
  exact ⟨r', hres'.resolve_eq_ok ha, hfixed⟩

theorem MergedBinding.type_fixed (r : Resolved) : b.type r.fixed = b.type r := by
  unfold MergedBinding.type
  cases b.kind with
  | sampler comparison => cases comparison <;> cases r <;> rfl
  | uniformBuffer | storageBuffer | texture | storageTexture => cases r <;> rfl

theorem layoutEntry_stands {e : LayoutEntry} (h : layoutEntry c table group b = .ok e)
    (hc : Lasting c c') : layoutEntry c' table group b = .ok e := by
  obtain ⟨r, hr, h⟩ := bind_eq_ok_iff.1 h
  obtain ⟨r', hr', hfixed⟩ := resolve_stands hr hc
  have htype : b.type r' = b.type r := by rw [← MergedBinding.type_fixed, hfixed, b.type_fixed]
  refine bind_eq_ok_iff.2 ⟨r', hr', ?_⟩
  rwa [htype]

theorem layoutEntries_stand {bs : List MergedBinding} {es : List LayoutEntry}
    (h : bs.mapM (layoutEntry c table group) = .ok es) (hc : Lasting c c') :
    bs.mapM (layoutEntry c' table group) = .ok es :=
  mapM_eq_ok_iff.2 ((mapM_eq_ok_iff.1 h).imp fun _ _ he => layoutEntry_stands he hc)

/-- The range that is cut from a buffer does not depend on what steps change about it. -/
theorem cut_of_fixed {buffer buffer' : Buffer} (heq : buffer'.fixed = buffer.fixed) (limits : Limits)
    (cuts : Cuts) : cut limits buffer' b cuts = cut limits buffer b cuts := by
  show cut limits buffer'.fixed b cuts = _
  rw [heq]
  rfl

/-! ## Targets and shaders -/

variable {count : SampleCount}

theorem colorTarget_stands {index : Nat} {target : ColorTarget}
    (h : colorTarget c count index id = .ok target) (hc : Lasting c c') :
    colorTarget c' count index id = .ok target := by
  obtain ⟨a, t, ha, ht, hsamples, rfl⟩ := (colorTarget_suits h).lasting hc
  refine bind_eq_ok_iff.2 ⟨a, Store.require_eq_ok_iff.2 ha, ?_⟩
  refine bind_eq_ok_iff.2 ⟨t, Store.require_eq_ok_iff.2 ht, ?_⟩
  exact if_neg (not_not.2 hsamples)

theorem colorTargets_stand {ids : List ResourceId} {targets : List ColorTarget}
    (h : colorTargets c count ids = .ok targets) (hc : Lasting c c') :
    colorTargets c' count ids = .ok targets :=
  mapM_eq_ok_iff.2 ((mapM_eq_ok_iff.1 h).imp fun _ _ he => colorTarget_stands he hc)

theorem depthState_stands {depth : Option ResourceId} {state : Option DepthStencilState}
    (h : depthState c count depth = .ok state) (hc : Lasting c c') :
    depthState c' count depth = .ok state := by
  cases depthState_suits h with
  | none => rfl
  | some hsuits =>
    obtain ⟨a, t, ha, ht, hsamples, rfl⟩ := hsuits.lasting hc
    refine bind_eq_ok_iff.2 ⟨a, Store.require_eq_ok_iff.2 ha, ?_⟩
    refine bind_eq_ok_iff.2 ⟨t, Store.require_eq_ok_iff.2 ht, ?_⟩
    exact if_neg (not_not.2 hsamples)

/-- A shader that serves a stage goes on doing so, with the same interface. -/
theorem Context.Reflects.stands {stage : Stage} {i : ShaderInterface} (h : c.Reflects stage id i)
    (hc : Lasting c c') : c'.Reflects stage id i := by
  obtain ⟨s, hs, hstage, hi, hreflect⟩ := h
  obtain ⟨s', hs', hfixed⟩ := hc.fixedShader hs
  have hstage' : s'.stage = s.stage := (congrArg Shader.stage hfixed :)
  have hcode : s'.code.reflect s'.entryPoint = s.code.reflect s.entryPoint :=
    (congrArg (fun s => s.code.reflect s.entryPoint) hfixed :)
  exact ⟨s', hs', hstage'.trans hstage, hi, hcode.trans hreflect⟩

end PassForge
