import Mathlib
import PassForge.Proofs.Context.Bound
import PassForge.Proofs.Resource.TextureAgain

/-!
# Sequences of storage views

A sequence of the storage views of a texture is read on its own: what else is done in the context, with
the texture, or with other sequences makes no difference to it.

* `Tally` counts the reads of a sequence, and `Tally.answer` is what the next one has to yield. It knows
  nothing of the texture.
* `MipReaders` is a context with some sequences of one texture. `MipReaders.Step` is one thing that
  happens, with what is seen of it, and `MipReaders.Run` any number of them in any order.
* `MipReaders.Follows` is the invariant: each sequence is at its tally. `Step.follows` is the step lemma
  and `Run.answered` the run lemma. `exists_run_readings`: there is such a run of reads of any length.
* `mipViews_spec` is the whole statement.
-/

namespace PassForge

open Relation (ReflTransGen)

variable {c c' : Context} {id : ResourceId} {start : Nat} {vs : List View} {m : MipViews}

/-! ## Tallies -/

/-- How often a sequence with some start has been read since it was created or restarted. -/
structure Tally where
  start : Nat
  reads : Nat

namespace Tally

/-- One read more. -/
def read (p : Tally) : Tally := { p with reads := p.reads + 1 }

/-- No reads since. -/
def restart (p : Tally) : Tally := { p with reads := 0 }

/-- The next mip with its view. There is none once all mips have been read, or if the start was behind
the last one. -/
def answer (vs : List View) (p : Tally) : Option (Nat × View) :=
  vs[p.start + p.reads]?.map fun v => (p.start + p.reads, v)

/-- The sequence that has been read so often. -/
def sequence (vs : List View) (p : Tally) : MipViews where
  views := vs
  start := min p.start vs.length
  position := min (p.start + p.reads) vs.length

theorem next?_sequence (vs : List View) (p : Tally) :
    (p.sequence vs).next? = (p.answer vs).map fun a => (a, p.read.sequence vs) := by
  unfold MipViews.next? answer sequence read
  by_cases h : p.start + p.reads < vs.length
  · simp only [Nat.min_eq_left (Nat.le_of_lt h), List.getElem?_eq_getElem h, Option.map_some]
    rw [← Nat.add_assoc, Nat.min_eq_left h]
  · rw [Nat.not_lt] at h
    simp [Nat.min_eq_right h, List.getElem?_eq_none h]

/-- A sequence that has come to its end stays there. -/
theorem sequence_read {p : Tally} (h : p.answer vs = none) :
    p.read.sequence vs = p.sequence vs := by
  have hend : vs.length ≤ p.start + p.reads := by
    simpa [answer] using h
  have hread : vs.length ≤ p.start + (p.reads + 1) := by omega
  unfold sequence read
  dsimp only
  rw [Nat.min_eq_right hend, Nat.min_eq_right hread]

theorem sequence_restart (vs : List View) (p : Tally) :
    p.restart.sequence vs = (p.sequence vs).restart := rfl

end Tally

/-! ## One texture -/

namespace Texture

variable {l l' : Live Texture} {t : Texture} {d : Device}

/-- There is a storage view for each mip. -/
theorem Sound.length_storageViews (ht : t.Sound d) (hvs : t.storageViews = some vs) :
    vs.length = t.mips := by
  obtain ⟨image, -, hviews⟩ := ht.storage vs hvs
  rw [← hviews.length_eq, List.length_range]

/-- A new sequence has the storage views that the texture then has, and creating it moves no cursor. -/
theorem mipViews_eq_ok (h : mipViews start l = .ok m l') :
    ∃ vs, l'.object.storageViews = some vs ∧ l'.object.cursor = l.object.cursor ∧
      m = ⟨vs, min start l'.object.mips, min start l'.object.mips⟩ := by
  obtain ⟨u, l₁, hstorage, h⟩ := bind_eq_ok h
  cases h
  obtain ⟨-, -, hsome⟩ := useAsStorage_eq_ok hstorage
  obtain ⟨vs, hvs⟩ := Option.isSome_iff_exists.1 hsome
  exact ⟨vs, hvs, (useAsStorage_storage hstorage).1, by rw [hvs, Option.getD_some]⟩

/-- A texture with the usage for storage access always gives a sequence. -/
theorem exists_mipViews (start : Nat) (hk : l.object.kind ≠ .surface)
    (hu : l.object.usage.contains { storageBinding := true }) :
    ∃ m l', mipViews start l = .ok m l' := by
  obtain ⟨hno, -⟩ | ⟨-, ⟨-, h⟩ | ⟨-, hsurface, -⟩ | ⟨-, image, l₁, -, h⟩⟩ := useAsStorage_cases l
  · exact nomatch hno.symm.trans hu
  · exact ⟨_, _, bind_of_ok h⟩
  · exact absurd hsurface hk
  · exact ⟨_, _, bind_of_ok h⟩

end Texture

/-! ## A texture of a context -/

namespace Context

/-- The texture under an id has its storage views. -/
def HasMipViews (c : Context) (id : ResourceId) (vs : List View) : Prop :=
  ∃ t, c.textures.get? id = some t ∧ t.storageViews = some vs

/-- No operation takes storage views away. -/
theorem HasMipViews.steps (h : c.HasMipViews id vs) (hc : c.Reachable)
    (hsteps : ReflTransGen Step c c') : c'.HasMipViews id vs := by
  obtain ⟨t, ht, hvs⟩ := h
  obtain ⟨t', ht', hbecomes⟩ := (lasting_of_steps hc hsteps).texture ht
  exact ⟨t', ht', hbecomes.keeps (P := fun t => t.storageViews = some vs)
    (fun _ _ hl => hl.storageViews) hvs⟩

end Context

theorem on_mipViews_runs (start : Nat) :
    Runs Context.Step (Work.on .textures id (Texture.mipViews start)) :=
  Work.on_texture_runs fun l => (Texture.mipViews_uses start l).mono fun _ _ => .use

/-- A new sequence has not been read yet, and creating it moves no cursor. -/
theorem on_mipViews_eq_ok (hc : c.Reachable)
    (h : Work.on .textures id (Texture.mipViews start) c = .ok m c') :
    ∃ t t' vs, c.textures.get? id = some t ∧ c'.textures.get? id = some t' ∧
      t'.storageViews = some vs ∧ t'.cursor = t.cursor ∧ m = (⟨start, 0⟩ : Tally).sequence vs := by
  have hc' : c'.Reachable := hc.steps ((on_mipViews_runs start).of_eq_ok h)
  obtain ⟨t, l, ht, hl, rfl⟩ := on_eq_ok h
  obtain ⟨vs, hvs, hcursor, hm⟩ := Texture.mipViews_eq_ok hl
  have hget : (Shelf.textures.put id l c).textures.get? id = some l.object :=
    @Shelf.get?_put _ .textures _ c id t l ht
  have hlength := (hc'.sound.textures id l.object hget).2.length_storageViews hvs
  refine ⟨t, l.object, vs, ht, hget, hvs, hcursor, ?_⟩
  rw [hm, Tally.sequence, hlength, Nat.add_zero]

/-- A texture with the usage for storage access always gives a sequence. -/
theorem exists_on_mipViews {t : Texture} (hc : c.Reachable) (ht : c.textures.get? id = some t)
    (hu : t.usage.contains { storageBinding := true }) (start : Nat) :
    ∃ vs c₁ t₁, c₁.Reachable ∧ c₁.textures.get? id = some t₁ ∧ t₁.storageViews = some vs ∧
      t₁.fixed = t.fixed ∧ t₁.cursor = t.cursor ∧
      Work.on .textures id (Texture.mipViews start) c = .ok ((⟨start, 0⟩ : Tally).sequence vs) c₁ := by
  obtain ⟨-, hsound⟩ := hc.sound.textures id t ht
  obtain ⟨m, l, hl⟩ := Texture.exists_mipViews (l := ⟨t, c.device⟩) start (hsound.surface hu) hu
  have hon : Work.on .textures id (Texture.mipViews start) c = .ok m (Shelf.textures.put id l c) :=
    on_of_ok ht hl
  have hsteps : ReflTransGen Context.Step c (Shelf.textures.put id l c) :=
    (on_mipViews_runs start).of_eq_ok hon
  obtain ⟨t₀, t₁, vs, ht₀, ht₁, hvs, hcursor, rfl⟩ := on_mipViews_eq_ok hc hon
  cases ht₀.symm.trans ht
  obtain ⟨t₂, ht₂, hfixed⟩ := (Context.lasting_of_steps hc hsteps).fixedTexture ht
  cases ht₁.symm.trans ht₂
  exact ⟨vs, _, t₁, hc.steps hsteps, ht₁, hvs, hfixed, hcursor, hon⟩

/-! ## Readers -/

/-- A context, and some sequences of the storage views of one of its textures. -/
structure MipReaders where
  context : Context
  sequences : List MipViews

namespace MipReaders

variable {r r' : MipReaders} {ps : List Tally}

/-- Something that happens in the context or to one of the sequences. -/
inductive Act
  /-- Something else is done in the context. -/
  | other
  /-- A sequence is created. -/
  | create (start : Nat)
  /-- A sequence is read, and yields a mip with its view or nothing. -/
  | read (k : Nat) (answer : Option (Nat × View))
  /-- A sequence is set back to its start. -/
  | restart (k : Nat)
  /-- A second sequence is made that stands where the first one does. -/
  | clone (k : Nat)

/-- What happens next. -/
inductive Step (id : ResourceId) : MipReaders → Act → MipReaders → Prop
  | other {c c' : Context} {ms : List MipViews} (h : Context.Step c c') :
      Step id ⟨c, ms⟩ .other ⟨c', ms⟩
  | create {c c' : Context} {ms : List MipViews} {start : Nat} {m : MipViews}
      (h : Work.on .textures id (Texture.mipViews start) c = .ok m c') :
      Step id ⟨c, ms⟩ (.create start) ⟨c', ms ++ [m]⟩
  | read {c : Context} {ms : List MipViews} {k : Nat} {m m' : MipViews} {a : Nat × View}
      (h : ms[k]? = some m) (hnext : m.next? = some (a, m')) :
      Step id ⟨c, ms⟩ (.read k (some a)) ⟨c, ms.set k m'⟩
  | finished {c : Context} {ms : List MipViews} {k : Nat} {m : MipViews}
      (h : ms[k]? = some m) (hnext : m.next? = none) : Step id ⟨c, ms⟩ (.read k none) ⟨c, ms⟩
  | restart {c : Context} {ms : List MipViews} {k : Nat} {m : MipViews} (h : ms[k]? = some m) :
      Step id ⟨c, ms⟩ (.restart k) ⟨c, ms.set k m.restart⟩
  | clone {c : Context} {ms : List MipViews} {k : Nat} {m : MipViews} (h : ms[k]? = some m) :
      Step id ⟨c, ms⟩ (.clone k) ⟨c, ms ++ [m]⟩

/-- What happens one after the other. -/
inductive Run (id : ResourceId) : MipReaders → List Act → MipReaders → Prop
  | nil {r : MipReaders} : Run id r [] r
  | cons {r r' r'' : MipReaders} {a : Act} {as : List Act} (h : Step id r a r')
      (hrun : Run id r' as r'') : Run id r (a :: as) r''

/-- The tallies of the sequences after something has happened. -/
def Act.tally : Act → List Tally → List Tally
  | other, ps => ps
  | create start, ps => ps ++ [⟨start, 0⟩]
  | read k _, ps => ps.modify k Tally.read
  | restart k, ps => ps.modify k Tally.restart
  | clone k, ps => ps ++ ps[k]?.toList

/-- A read yields what the tally of its sequence says. -/
def Act.Answered (vs : List View) (ps : List Tally) (a : Act) : Prop :=
  ∀ k answer, a = .read k answer → ∃ p, ps[k]? = some p ∧ answer = p.answer vs

/-- All reads of a run yield what the tallies say. -/
def Answered (vs : List View) : List Act → List Tally → Prop
  | [], _ => True
  | a :: as, ps => a.Answered vs ps ∧ Answered vs as (a.tally ps)

/-- The storage views of the texture are `vs`, and each sequence of them is at its tally. -/
structure Follows (id : ResourceId) (vs : List View) (r : MipReaders) (ps : List Tally) : Prop where
  reachable : r.context.Reachable
  views : r.context.HasMipViews id vs
  sequences : r.sequences = ps.map (Tally.sequence vs)

theorem Follows.exists_tally (h : r.Follows id vs ps) {k : Nat} (hm : r.sequences[k]? = some m) :
    ∃ p, ps[k]? = some p ∧ p.sequence vs = m := by
  rw [h.sequences, List.getElem?_map] at hm
  exact Option.map_eq_some_iff.1 hm

/-- A sequence is put where its tally is. -/
theorem map_modify {k : Nat} {p : Tally} (hp : ps[k]? = some p) (f : Tally → Tally) :
    (ps.modify k f).map (Tally.sequence vs) =
      (ps.map (Tally.sequence vs)).set k ((f p).sequence vs) := by
  rw [List.modify_eq_set_getElem?, hp]
  exact List.map_set

/-- Whatever happens, a read yields what the tally says, and each sequence is at its tally. -/
theorem Step.follows {a : Act} (h : Step id r a r') (hr : r.Follows id vs ps) :
    a.Answered vs ps ∧ r'.Follows id vs (a.tally ps) := by
  cases h with
  | @other c c' ms h =>
    have hsteps : ReflTransGen Context.Step c c' := .single h
    exact ⟨fun _ _ ha => (nomatch ha), hr.reachable.steps hsteps,
      hr.views.steps hr.reachable hsteps, hr.sequences⟩
  | @create c c' ms start m h =>
    have hsteps : ReflTransGen Context.Step c c' := (on_mipViews_runs start).of_eq_ok h
    have hviews := hr.views.steps hr.reachable hsteps
    obtain ⟨-, t', vs', -, ht', hvs', -, rfl⟩ := on_mipViews_eq_ok hr.reachable h
    obtain ⟨t, ht, hvs⟩ := hviews
    -- The texture has had its views before, so that the new sequence is one of the same views.
    cases ht.symm.trans ht'
    cases hvs.symm.trans hvs'
    refine ⟨fun _ _ ha => (nomatch ha), hr.reachable.steps hsteps, ⟨_, ht, hvs⟩, ?_⟩
    rw [Act.tally, List.map_append, ← hr.sequences]
    rfl
  | @read c ms k m m' a h hnext =>
    obtain ⟨p, hp, rfl⟩ := hr.exists_tally h
    rw [p.next?_sequence] at hnext
    obtain ⟨a', ha, heq⟩ := Option.map_eq_some_iff.1 hnext
    cases heq
    refine ⟨fun _ _ hread => ?_, hr.reachable, hr.views, ?_⟩
    · cases hread
      exact ⟨p, hp, ha.symm⟩
    · rw [Act.tally, map_modify hp, ← hr.sequences]
  | @finished c ms k m h hnext =>
    obtain ⟨p, hp, rfl⟩ := hr.exists_tally h
    rw [p.next?_sequence, Option.map_eq_none_iff] at hnext
    refine ⟨fun _ _ hread => ?_, hr.reachable, hr.views, ?_⟩
    · cases hread
      exact ⟨p, hp, hnext.symm⟩
    · rw [Act.tally, map_modify hp, p.sequence_read hnext, ← hr.sequences]
      obtain ⟨hlt, heq⟩ := List.getElem?_eq_some_iff.1 h
      rw [← heq]
      exact (List.set_getElem_self hlt).symm
  | @restart c ms k m h =>
    obtain ⟨p, hp, rfl⟩ := hr.exists_tally h
    refine ⟨fun _ _ ha => (nomatch ha), hr.reachable, hr.views, ?_⟩
    rw [Act.tally, map_modify hp, ← hr.sequences, p.sequence_restart]
  | @clone c ms k m h =>
    obtain ⟨p, hp, rfl⟩ := hr.exists_tally h
    refine ⟨fun _ _ ha => (nomatch ha), hr.reachable, hr.views, ?_⟩
    rw [Act.tally, hp, List.map_append, ← hr.sequences]
    rfl

/-- All reads of a run yield what the tallies say. -/
theorem Run.answered {as : List Act} (h : Run id r as r') (hr : r.Follows id vs ps) :
    Answered vs as ps ∧ ∃ ps', r'.Follows id vs ps' := by
  induction h generalizing ps with
  | nil => exact ⟨trivial, ps, hr⟩
  | cons h _ ih =>
    obtain ⟨hanswered, hr'⟩ := h.follows hr
    obtain ⟨hrest, hlast⟩ := ih hr'
    exact ⟨⟨hanswered, hrest⟩, hlast⟩

/-- Without anything else in between, no cursor moves. -/
theorem Step.cursor {a : Act} {t : Texture} (h : Step id r a r') (ha : a ≠ .other)
    (hr : r.context.Reachable) (ht : r.context.textures.get? id = some t) :
    ∃ t', r'.context.textures.get? id = some t' ∧ t'.cursor = t.cursor := by
  cases h with
  | other => exact absurd rfl ha
  | create h =>
    obtain ⟨t₀, t', vs, ht₀, ht', -, hcursor, -⟩ := on_mipViews_eq_ok hr h
    cases ht₀.symm.trans ht
    exact ⟨t', ht', hcursor⟩
  | read | finished | restart | clone => exact ⟨t, ht, rfl⟩

theorem Run.cursor {as : List Act} {t : Texture} (h : Run id r as r') (has : ∀ a ∈ as, a ≠ .other)
    (hr : r.Follows id vs ps) (ht : r.context.textures.get? id = some t) :
    ∃ t', r'.context.textures.get? id = some t' ∧ t'.cursor = t.cursor := by
  induction h generalizing ps t with
  | nil => exact ⟨t, ht, rfl⟩
  | cons h _ ih =>
    obtain ⟨ha, has⟩ := List.forall_mem_cons.1 has
    obtain ⟨t₁, ht₁, hcursor₁⟩ := h.cursor ha hr.reachable ht
    obtain ⟨t₂, ht₂, hcursor₂⟩ := ih has (h.follows hr).2 ht₁
    exact ⟨t₂, ht₂, hcursor₂.trans hcursor₁⟩

/-- Reading the first sequence some times in a row. -/
def readings (vs : List View) (p : Tally) : Nat → List Act
  | 0 => []
  | n + 1 => .read 0 (p.answer vs) :: readings vs p.read n

/-- A sequence can be read any number of times, at its end too. -/
theorem exists_run_readings (id : ResourceId) (c : Context) (vs : List View) (p : Tally) (n : Nat) :
    ∃ r, Run id ⟨c, [p.sequence vs]⟩ (readings vs p n) r ∧ r.context = c := by
  induction n generalizing p with
  | zero => exact ⟨_, .nil, rfl⟩
  | succ n ih =>
    obtain ⟨r, hrun, hcontext⟩ := ih p.read
    refine ⟨r, .cons ?_ hrun, hcontext⟩
    have hnext := p.next?_sequence vs
    cases ha : p.answer vs with
    | none =>
      rw [ha] at hnext
      rw [p.sequence_read ha]
      exact .finished rfl hnext
    | some a =>
      rw [ha] at hnext
      exact .read rfl hnext

end MipReaders

/-! ## Reading the view -/

/-- In storage mode, reading the view yields the storage view at the cursor. -/
theorem on_view_of_storage {t : Texture} (hc : c.Reachable) (ht : c.textures.get? id = some t)
    (hvs : t.storageViews = some vs) (hm : t.mode = .storage) :
    ∃ v, vs[t.cursor]? = some v ∧ outcome (Work.on .textures id Texture.view) c = .ok v := by
  obtain ⟨-, hsound⟩ := hc.sound.textures id t ht
  have hlt : t.cursor < vs.length := by
    rw [hsound.length_storageViews hvs]
    exact hsound.cursor
  have hget := List.getElem?_eq_getElem hlt
  have hview : Texture.view ⟨t, c.device⟩ = .ok vs[t.cursor] (Texture.advanced ⟨t, c.device⟩) := by
    rw [Texture.view_apply]
    simp only [hm, Texture.storageView_apply, hvs, Option.getD_some, hget]
  have hon : Work.on .textures id Texture.view c = .ok vs[t.cursor] _ := on_of_ok ht hview
  exact ⟨vs[t.cursor], hget, outcome_ok hon⟩

/-- **Sequences of storage views.** In a context that operations lead to, a texture with the usage for
storage access gives a sequence of its storage views from any start on, however often this is done. There
is one view for each mip, and it is a view of that mip. The sequence can be read any number of times.
Whatever then is done in the context, with the texture, or with this sequence and more of them:

* A sequence that has been read `n` times since it was created or restarted, or since the sequence that
  it is a clone of was, yields mip `start + n` with its view, and nothing if there is no such mip.
* In storage mode, reading the view of the texture yields the same views, by the mip at the cursor.
* Creating, reading, restarting and cloning sequences moves no cursor. -/
theorem mipViews_spec {c : Context} (hc : c.Reachable) {id : ResourceId} {t : Texture}
    (ht : c.textures.get? id = some t) (hu : t.usage.contains { storageBinding := true })
    (start : Nat) :
    ∃ vs c₁ t₁, c₁.textures.get? id = some t₁ ∧
      Work.on .textures id (Texture.mipViews start) c =
        .ok ⟨vs, min start t.mips, min start t.mips⟩ c₁ ∧
      vs.length = t.mips ∧
      (∀ level v, vs[level]? = some v → ∃ image, t₁.device = some image ∧
        t.ShowsMip c₁.device image level v) ∧
      (∀ n, ∃ r, MipReaders.Run id ⟨c₁, [⟨vs, min start t.mips, min start t.mips⟩]⟩
        (MipReaders.readings vs ⟨start, 0⟩ n) r ∧ r.context = c₁) ∧
      ∀ as r, MipReaders.Run id ⟨c₁, [⟨vs, min start t.mips, min start t.mips⟩]⟩ as r →
        MipReaders.Answered vs as [⟨start, 0⟩] ∧
        ∃ t', r.context.textures.get? id = some t' ∧
          (t'.mode = .storage → ∃ v, vs[t'.cursor]? = some v ∧
            outcome (Work.on .textures id Texture.view) r.context = .ok v) ∧
          ((∀ a ∈ as, a ≠ .other) → t'.cursor = t.cursor) := by
  obtain ⟨vs, c₁, t₁, hc₁, ht₁, hvs, hfixed, hcursor, hon⟩ := exists_on_mipViews hc ht hu start
  obtain ⟨-, hsound⟩ := hc₁.sound.textures id t₁ ht₁
  have hmips : t₁.mips = t.mips := (congrArg Texture.mips hfixed :)
  have hshows : t₁.ShowsMip = t.ShowsMip := (congrArg Texture.ShowsMip hfixed :)
  have hlength : vs.length = t.mips := (hsound.length_storageViews hvs).trans hmips
  have hfollows : MipReaders.Follows id vs ⟨c₁, [(⟨start, 0⟩ : Tally).sequence vs]⟩ [⟨start, 0⟩] :=
    ⟨hc₁, ⟨t₁, ht₁, hvs⟩, rfl⟩
  have hnew : (⟨start, 0⟩ : Tally).sequence vs = ⟨vs, min start t.mips, min start t.mips⟩ := by
    rw [Tally.sequence, hlength, Nat.add_zero]
  rw [hnew] at hon hfollows
  refine ⟨vs, c₁, t₁, ht₁, hon, hlength, fun level v hv => ?_, fun n => ?_, fun as r hrun => ?_⟩
  · rw [← hshows]
    exact hsound.showsMip hvs hv
  · rw [← hnew]
    exact MipReaders.exists_run_readings id c₁ vs ⟨start, 0⟩ n
  · obtain ⟨hanswered, ps, hlast⟩ := hrun.answered hfollows
    obtain ⟨t', ht', hvs'⟩ := hlast.views
    refine ⟨hanswered, t', ht', on_view_of_storage hlast.reachable ht' hvs', fun has => ?_⟩
    -- Making the sequence has moved no cursor, and neither has the run.
    obtain ⟨t'', ht'', hlater⟩ := hrun.cursor has hfollows ht₁
    cases ht''.symm.trans ht'
    exact hlater.trans hcursor

namespace MipChain

/-- A context with a storage texture of three mips. -/
def context : Context :=
  after (Work.createStorageTexture2d { width := 8, height := 8, format := some .rgba8Unorm })
    (.start {})

/-- The view that is made of a mip of the texture. -/
def view (level : Nat) : View where
  serial := 4 + level
  texture := 3
  dimension := some .d2
  aspect := .all
  baseMip := level
  mips := some 1
  baseLayer := 0
  layers := some 1

/-- The views of all of its mips. -/
def views : List View := [view 0, view 1, view 2]

/-- A sequence is read, and its clone goes on after the cursor has been moved. -/
def acts : List MipReaders.Act :=
  [.read 0 (some (1, view 1)), .clone 0, .other, .read 1 (some (2, view 2)), .read 1 none,
    .restart 1, .read 1 (some (1, view 1)), .read 0 (some (2, view 2))]

end MipChain

/-- From the second mip on there are two views to be read, by a sequence and by its clone. -/
theorem mipViews_chain : MipChain.context.Reachable ∧
    ∃ t, MipChain.context.textures.get? ⟨1⟩ = some t ∧
      t.usage.contains { storageBinding := true } ∧ ∃ c₁,
        Work.on .textures ⟨1⟩ (Texture.mipViews 1) MipChain.context =
          .ok ⟨MipChain.views, 1, 1⟩ c₁ ∧
        ∃ r, MipReaders.Run ⟨1⟩ ⟨c₁, [⟨MipChain.views, 1, 1⟩]⟩ MipChain.acts r ∧
          MipReaders.Answered MipChain.views MipChain.acts [⟨1, 0⟩] := by
  have hc : MipChain.context.Reachable :=
    Context.Reachable.runs ⟨.start {}, .refl⟩ (Work.createStorageTexture2d_runs _)
  have htexture : (MipChain.context.textures.get? ⟨1⟩).map
      (fun t => (t.mips, t.usage.contains { storageBinding := true })) = some (3, true) := by cbv
  have hout : (outcome (Work.on .textures ⟨1⟩ (Texture.mipViews 1)) MipChain.context).map
      MipViews.views = .ok MipChain.views := by cbv
  obtain ⟨t, ht, heq⟩ := Option.map_eq_some_iff.1 htexture
  obtain ⟨hmips, hu⟩ := Prod.mk.inj heq
  obtain ⟨vs, c₁, t₁, ht₁, hon, -, -, -, hrun⟩ := mipViews_spec hc ht hu 1
  rw [hmips] at hon hrun
  rw [outcome_ok hon] at hout
  obtain rfl : vs = MipChain.views := Except.ok.inj hout
  have hacts : ∃ r, MipReaders.Run ⟨1⟩ ⟨c₁, [⟨MipChain.views, 1, 1⟩]⟩ MipChain.acts r :=
    ⟨_, .cons (.read rfl rfl) <| .cons (.clone rfl) <| .cons (.other (.texture ht₁ (.point 2))) <|
      .cons (.read rfl rfl) <| .cons (.finished rfl rfl) <| .cons (.restart rfl) <|
      .cons (.read rfl rfl) <| .cons (.read rfl rfl) .nil⟩
  obtain ⟨r, hacts⟩ := hacts
  exact ⟨hc, t, ht, hu, c₁, hon, r, hacts, (hrun _ r hacts).1⟩

end PassForge
