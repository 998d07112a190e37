import Mathlib
import PassForge.Draw.Vertices
import PassForge.Proofs.Checks
import PassForge.Proofs.Distinct
import PassForge.Proofs.Shader.Reflection
import PassForge.Proofs.Store

/-!
# What vertex buffer layouts hold

`vertexState` turns the inputs of a vertex shader into one layout a buffer. Its specification speaks of
the inputs, not of the feeds in between.

* `AttributeTable.Feeds`: an input has a buffer that is registered, and a vertex format.
* `VertexBufferLayout.Interleaves`: a layout holds a list of inputs one after the other, so that they
  neither overlap nor reach past the stride, and everything stands at multiples of four bytes.
* `VertexState.LaysOut`: there is a slot for each buffer that is read, in the order of first use, and
  each input is in the slot of its buffer.
* `vertexState_spec`: when there are layouts, what they hold, and that nothing else counts.
-/

namespace PassForge

/-! ## Formats -/

/-- The format of an input takes as many bytes as the input. -/
theorem VertexFormat.byteSize_of_ofInput? {f : InputFormat} {v : VertexFormat}
    (h : VertexFormat.ofInput? f = some v) : v.byteSize = f.byteSize := by
  obtain ⟨kind, components, width⟩ := f
  unfold ofInput? at h
  split at h <;> simp_all [InputFormat.byteSize] <;> subst h <;> rfl

theorem VertexFormat.four_dvd_byteSize (v : VertexFormat) : 4 ∣ v.byteSize := by
  cases v <;> decide

/-! ## Inputs that follow each other -/

/-- An attribute is where an input is read. -/
structure VertexAttribute.Holds (i : VertexInput) (a : VertexAttribute) : Prop where
  location : a.location = i.location
  format : VertexFormat.ofInput? i.format = some a.format
  byteSize : a.format.byteSize = i.format.byteSize

/-- A layout holds inputs one after the other. -/
structure VertexBufferLayout.Interleaves (l : VertexBufferLayout) (inputs : List VertexInput) :
    Prop where
  /-- The attributes are those of the inputs, in their order. -/
  holds : List.Forall₂ VertexAttribute.Holds inputs l.attributes
  /-- The first starts the vertex. -/
  first : ∀ a ∈ l.attributes.head?, a.offset = 0
  /-- Each starts where the one before ends. -/
  next : l.attributes.IsChain fun a b => b.offset = a.offset + a.format.byteSize
  /-- The vertex ends where the last one does. -/
  stride : l.stride = (inputs.map fun i => i.format.byteSize).sum
  apart : l.attributes.Pairwise fun a b => a.offset + a.format.byteSize ≤ b.offset
  inside : ∀ a ∈ l.attributes, a.offset + a.format.byteSize ≤ l.stride
  aligned : 4 ∣ l.stride ∧ ∀ a ∈ l.attributes, 4 ∣ a.offset

/-- The feed of an input. -/
structure VertexFeed.FeedOf (t : AttributeTable) (i : VertexInput) (f : VertexFeed) : Prop where
  buffer : t.buffer? i.name = some f.buffer
  format : VertexFormat.ofInput? i.format = some f.format
  location : f.location = i.location

/-- The bytes that feeds take. -/
def feedBytes (fs : List VertexFeed) : Nat := (fs.map fun f => f.format.byteSize).sum

section Feeds

variable {t : AttributeTable} {fs : List VertexFeed} {offset : Nat}

@[simp]
theorem feedBytes_cons (f : VertexFeed) (fs : List VertexFeed) :
    feedBytes (f :: fs) = f.format.byteSize + feedBytes fs := rfl

theorem foldl_byteSize (fs : List VertexFeed) (total : Nat) :
    fs.foldl (fun total f => total + f.format.byteSize) total = total + feedBytes fs := by
  induction fs generalizing total with
  | nil => rfl
  | cons f fs ih =>
    rw [List.foldl_cons, ih, feedBytes_cons]
    omega

theorem four_dvd_feedBytes (fs : List VertexFeed) : 4 ∣ feedBytes fs := by
  induction fs with
  | nil => exact Nat.dvd_zero 4
  | cons f fs ih => exact Nat.dvd_add f.format.four_dvd_byteSize ih

/-- Attributes lie between the offset they are placed from and the end of all feeds. -/
theorem placeFeeds_bounds {a : VertexAttribute} (h : a ∈ placeFeeds offset fs) :
    offset ≤ a.offset ∧ a.offset + a.format.byteSize ≤ offset + feedBytes fs := by
  induction fs generalizing offset with
  | nil => simp [placeFeeds] at h
  | cons f fs ih =>
    rw [feedBytes_cons]
    rcases List.mem_cons.1 h with rfl | h
    · simp only []
      omega
    · have := ih h
      omega

theorem placeFeeds_apart (fs : List VertexFeed) (offset : Nat) :
    (placeFeeds offset fs).Pairwise fun a b => a.offset + a.format.byteSize ≤ b.offset := by
  induction fs generalizing offset with
  | nil => exact .nil
  | cons f fs ih => exact .cons (fun b hb => (placeFeeds_bounds hb).1) (ih _)

theorem placeFeeds_next (fs : List VertexFeed) (offset : Nat) :
    (placeFeeds offset fs).IsChain fun a b => b.offset = a.offset + a.format.byteSize := by
  induction fs generalizing offset with
  | nil => exact .nil
  | cons f fs ih =>
    cases fs with
    | nil => exact .singleton _
    | cons g fs => exact .cons_cons rfl (ih _)

theorem placeFeeds_aligned {a : VertexAttribute} (hoffset : 4 ∣ offset)
    (h : a ∈ placeFeeds offset fs) : 4 ∣ a.offset := by
  induction fs generalizing offset with
  | nil => simp [placeFeeds] at h
  | cons f fs ih =>
    rcases List.mem_cons.1 h with rfl | h
    · exact hoffset
    · exact ih (Nat.dvd_add hoffset f.format.four_dvd_byteSize) h

theorem placeFeeds_holds {inputs : List VertexInput} (h : List.Forall₂ (VertexFeed.FeedOf t) inputs fs)
    (offset : Nat) : List.Forall₂ VertexAttribute.Holds inputs (placeFeeds offset fs) := by
  induction h generalizing offset with
  | nil => exact .nil
  | cons hf _ ih =>
    refine .cons ⟨hf.location, hf.format, ?_⟩ (ih _)
    exact VertexFormat.byteSize_of_ofInput? hf.format

/-- The bytes of feeds are those of their inputs. -/
theorem feedBytes_eq {inputs : List VertexInput} (h : List.Forall₂ (VertexFeed.FeedOf t) inputs fs) :
    feedBytes fs = (inputs.map fun i => i.format.byteSize).sum := by
  induction h with
  | nil => rfl
  | cons hf _ ih =>
    rw [feedBytes_cons, ih, List.map_cons, List.sum_cons,
      VertexFormat.byteSize_of_ofInput? hf.format]

theorem ofFeeds_interleaves {inputs : List VertexInput}
    (h : List.Forall₂ (VertexFeed.FeedOf t) inputs fs) :
    (VertexBufferLayout.ofFeeds fs).Interleaves inputs := by
  have hstride : (VertexBufferLayout.ofFeeds fs).stride = feedBytes fs := by
    simp only [VertexBufferLayout.ofFeeds, foldl_byteSize, Nat.zero_add]
  refine ⟨placeFeeds_holds h 0, ?_, placeFeeds_next fs 0, hstride.trans (feedBytes_eq h),
    placeFeeds_apart fs 0, fun a ha => ?_, ?_, fun a ha => placeFeeds_aligned (Nat.dvd_zero 4) ha⟩
  · cases fs <;> simp [VertexBufferLayout.ofFeeds, placeFeeds]
  · have := (placeFeeds_bounds ha).2
    omega
  · rw [hstride]
    exact four_dvd_feedBytes fs

end Feeds

theorem VertexBufferLayout.Interleaves.locations {l : VertexBufferLayout}
    {inputs : List VertexInput} (h : l.Interleaves inputs) :
    l.attributes.map VertexAttribute.location = inputs.map VertexInput.location :=
  (map_eq_of_forall₂ (h.holds.imp fun _ _ ha => ha.location.symm)).symm

/-! ## Slots -/

/-- An input can be read: a registered buffer is assigned to it, and it has a vertex format. -/
def AttributeTable.Feeds (t : AttributeTable) (buffers : Store Buffer) (i : VertexInput) : Prop :=
  ∃ id format b, t.buffer? i.name = some id ∧ VertexFormat.ofInput? i.format = some format ∧
    buffers.get? id = some b

/-- The inputs that are read from a buffer, in their order. -/
def AttributeTable.inputsOf (t : AttributeTable) (inputs : List VertexInput) (id : ResourceId) :
    List VertexInput :=
  inputs.filter fun i => t.buffer? i.name = some id

/-- Vertex buffers and their layouts serve a list of inputs. -/
structure VertexState.LaysOut (s : VertexState) (t : AttributeTable) (inputs : List VertexInput) :
    Prop where
  /-- Each buffer has one slot. -/
  distinct : s.buffers.Nodup
  /-- The buffers are those that some input is read from. -/
  read : ∀ id, id ∈ s.buffers ↔ ∃ i ∈ inputs, t.buffer? i.name = some id
  /-- Slots are numbered by first use. -/
  firstUse : s.buffers.Pairwise (AppearsBefore (inputs.filterMap fun i => t.buffer? i.name))
  /-- A slot holds the inputs of its buffer. -/
  slots : List.Forall₂ (fun id l => l.Interleaves (t.inputsOf inputs id)) s.buffers s.layouts
  /-- Inputs in the order of their locations keep it within a slot. -/
  ordered : (inputs.Pairwise fun i j => i.location ≤ j.location) →
    ∀ l ∈ s.layouts, l.attributes.Pairwise fun a b => a.location ≤ b.location
  /-- Each input is in one slot, with its location and format. -/
  once : (s.layouts.flatMap fun l => l.attributes.map fun a => (a.location, some a.format)).Perm
    (inputs.map fun i => (i.location, VertexFormat.ofInput? i.format))

/-- The slots of feeds. -/
def VertexState.ofFeeds (feeds : List VertexFeed) : VertexState where
  layouts := (feeds.map VertexFeed.buffer).eraseDups.map fun id =>
    .ofFeeds (feeds.filter fun f => f.buffer = id)
  buffers := (feeds.map VertexFeed.buffer).eraseDups

section VertexState

variable {t : AttributeTable} {inputs : List VertexInput} {buffers : Store Buffer}

theorem feed_eq_ok_iff {i : VertexInput} {f : VertexFeed} :
    t.feed i = .ok f ↔ VertexFeed.FeedOf t i f := by
  unfold AttributeTable.feed
  constructor
  · intro h
    split at h
    · cases h
    · split at h
      · cases h
      · cases h
        exact ⟨‹_›, ‹_›, rfl⟩
  · rintro ⟨hbuffer, hformat, hlocation⟩
    simp only [hbuffer, hformat, ← hlocation]

/-- The layouts are made of the feeds, one slot for each of their buffers. -/
theorem vertexState_eq_ok_iff {s : VertexState} :
    vertexState inputs t buffers = .ok s ↔ ∃ feeds, List.Forall₂ (VertexFeed.FeedOf t) inputs feeds ∧
      (∀ f ∈ feeds, ∃ b, buffers.get? f.buffer = some b) ∧ s = .ofFeeds feeds := by
  have hregistered : ∀ feeds : List VertexFeed,
      (∃ bs, (feeds.map VertexFeed.buffer).eraseDups.mapM buffers.require = .ok bs) ↔
        ∀ f ∈ feeds, ∃ b, buffers.get? f.buffer = some b := fun feeds => by
    simp only [exists_mapM_eq_ok_iff, Store.require_eq_ok_iff, List.mem_eraseDups, List.forall_mem_map]
  simp only [vertexState, bind_eq_ok_iff, mapM_eq_ok_iff (f := t.feed), feed_eq_ok_iff]
  constructor
  · rintro ⟨feeds, hfeeds, bs, hbs, h⟩
    cases h
    exact ⟨feeds, hfeeds, (hregistered feeds).1 ⟨bs, hbs⟩, rfl⟩
  · rintro ⟨feeds, hfeeds, hall, rfl⟩
    obtain ⟨bs, hbs⟩ := (hregistered feeds).2 hall
    exact ⟨feeds, hfeeds, bs, hbs, rfl⟩

theorem exists_vertexState_iff :
    (∃ s, vertexState inputs t buffers = .ok s) ↔ ∀ i ∈ inputs, t.Feeds buffers i := by
  simp only [vertexState_eq_ok_iff]
  constructor
  · rintro ⟨s, feeds, hfeeds, hall, -⟩ i hi
    obtain ⟨f, hf, hfeed⟩ := exists_mem_of_forall₂ hfeeds i hi
    obtain ⟨b, hb⟩ := hall f hf
    exact ⟨f.buffer, f.format, b, hfeed.buffer, hfeed.format, hb⟩
  · intro h
    have hfeed : ∀ i ∈ inputs, ∃ f, t.feed i = .ok f := fun i hi => by
      obtain ⟨id, format, b, hid, hformat, -⟩ := h i hi
      exact ⟨⟨id, format, i.location⟩, feed_eq_ok_iff.2 ⟨hid, hformat, rfl⟩⟩
    obtain ⟨feeds, hfeeds⟩ := exists_mapM_eq_ok_iff.2 hfeed
    simp only [mapM_eq_ok_iff, feed_eq_ok_iff] at hfeeds
    refine ⟨_, feeds, hfeeds, fun f hf => ?_, rfl⟩
    obtain ⟨i, hi, hif⟩ := exists_mem_of_forall₂ hfeeds.flip f hf
    obtain ⟨id, format, b, hid, -, hb⟩ := h i hi
    rw [hif.buffer] at hid
    cases hid
    exact ⟨b, hb⟩

section Slots

variable {feeds : List VertexFeed} (h : List.Forall₂ (VertexFeed.FeedOf t) inputs feeds)
include h

/-- The buffers of the feeds are those that the inputs are read from, in the same order. -/
theorem filterMap_buffer? :
    (inputs.filterMap fun i => t.buffer? i.name) = feeds.map VertexFeed.buffer := by
  induction h with
  | nil => rfl
  | cons hf _ ih => rw [List.filterMap_cons, hf.buffer, List.map_cons, ih]

theorem forall₂_inputsOf (id : ResourceId) : List.Forall₂ (VertexFeed.FeedOf t)
    (t.inputsOf inputs id) (feeds.filter fun f => f.buffer = id) := by
  refine List.rel_filter ?_ h
  intro i f hf
  simp [hf.buffer]

theorem slots_interleave : List.Forall₂
    (fun id (l : VertexBufferLayout) => l.Interleaves (t.inputsOf inputs id))
    (VertexState.ofFeeds feeds).buffers (VertexState.ofFeeds feeds).layouts := by
  rw [VertexState.ofFeeds, List.forall₂_map_right_iff, List.forall₂_same]
  exact fun id _ => ofFeeds_interleaves (forall₂_inputsOf h id)

theorem mem_ofFeeds_iff {id : ResourceId} :
    id ∈ (VertexState.ofFeeds feeds).buffers ↔ ∃ i ∈ inputs, t.buffer? i.name = some id := by
  rw [VertexState.ofFeeds, List.mem_eraseDups, ← filterMap_buffer? h, List.mem_filterMap]

/-- The attributes of all slots are those of all inputs. -/
theorem attributes_perm : ((VertexState.ofFeeds feeds).layouts.flatMap fun l =>
    l.attributes.map fun a => (a.location, some a.format)).Perm
      (inputs.map fun i => (i.location, VertexFormat.ofInput? i.format)) := by
  have hslot : ∀ id (l : VertexBufferLayout), l.Interleaves (t.inputsOf inputs id) →
      (t.inputsOf inputs id).map (fun i => (i.location, VertexFormat.ofInput? i.format)) =
        l.attributes.map fun a => (a.location, some a.format) := by
    intro id l hl
    exact map_eq_of_forall₂ (hl.holds.imp fun i a ha => by rw [ha.location, ha.format])
  have hall := map_eq_of_forall₂ ((slots_interleave h).imp hslot)
  rw [List.flatMap_def, ← hall, ← List.flatMap_def, ← List.map_flatMap]
  refine (flatMap_filter_perm (nodup_eraseDups _) fun i hi => ?_).map _
  obtain ⟨f, -, hf⟩ := exists_mem_of_forall₂ h i hi
  exact ⟨f.buffer, (mem_ofFeeds_iff h).2 ⟨i, hi, hf.buffer⟩, hf.buffer⟩

theorem laysOut_ofFeeds : (VertexState.ofFeeds feeds).LaysOut t inputs := by
  refine ⟨nodup_eraseDups _, fun _ => mem_ofFeeds_iff h, ?_, slots_interleave h,
    fun hordered l hl => ?_, attributes_perm h⟩
  · rw [filterMap_buffer? h]
    exact pairwise_eraseDups _
  · obtain ⟨id, -, hid⟩ := exists_mem_of_forall₂ (slots_interleave h).flip l hl
    rw [← List.pairwise_map (f := VertexAttribute.location) (R := (· ≤ ·)), hid.locations,
      List.pairwise_map]
    exact hordered.filter _

end Slots

/-- The assignments to other names have no part in the layouts. -/
theorem vertexState_congr {t' : AttributeTable}
    (h : ∀ i ∈ inputs, t'.buffer? i.name = t.buffer? i.name) :
    vertexState inputs t' buffers = vertexState inputs t buffers := by
  have hfeeds : inputs.mapM t'.feed = inputs.mapM t.feed := by
    induction inputs with
    | nil => rfl
    | cons i inputs ih =>
      rw [List.forall_mem_cons] at h
      rw [List.mapM_cons, List.mapM_cons, ih h.2]
      simp only [AttributeTable.feed, h.1]
  unfold vertexState
  rw [hfeeds]

end VertexState

/-! ## Inputs of a shader -/

namespace ShaderModule

variable {m : ShaderModule}

theorem vertexInputs_ordered {e : EntryPoint} {inputs : List VertexInput}
    (h : m.vertexInputs e = .ok inputs) : inputs.Pairwise fun i j => i.location ≤ j.location := by
  obtain ⟨unsorted, -, h⟩ := bind_eq_ok_iff.1 h
  cases h
  refine List.Pairwise.imp of_decide_eq_true (List.pairwise_mergeSort ?_ ?_ unsorted)
  · intro a b c hab hbc
    simp only [decide_eq_true_eq] at hab hbc ⊢
    omega
  · intro a b
    simp only [Bool.or_eq_true, decide_eq_true_eq]
    omega

/-- Reflection reports the inputs in the order of their locations. -/
theorem reflect_ordered {name : String} {i : ShaderInterface} (h : m.reflect name = .ok i) :
    i.vertexInputs.Pairwise fun i j => i.location ≤ j.location := by
  unfold reflect at h
  split at h
  · cases h
  · cases h
  · split at h
    · cases h
    · split at h
      · rw [entryInterface_eq] at h
        obtain ⟨reports, -, h⟩ := bind_eq_ok_iff.1 h
        obtain ⟨inputs, hinputs, h⟩ := bind_eq_ok_iff.1 h
        cases h
        split at hinputs
        · exact vertexInputs_ordered hinputs
        · cases hinputs
          exact .nil
      · cases h
      · cases h

end ShaderModule

/-- **What vertex buffer layouts hold.** For all inputs of a vertex shader, assignments and buffers:

* There are layouts iff each input has a buffer that is registered, and a vertex format.
* They have one slot for each buffer that is read, by first use, with the inputs of that buffer one
  after the other, and each input is in one slot.
* Assignments to names that the shader does not read have no effect.
* Inputs that reflection reports are in the order of their locations. -/
theorem vertexState_spec (inputs : List VertexInput) (t : AttributeTable) (buffers : Store Buffer) :
    ((∃ s, vertexState inputs t buffers = .ok s) ↔ ∀ i ∈ inputs, t.Feeds buffers i) ∧
    (∀ s, vertexState inputs t buffers = .ok s → s.LaysOut t inputs) ∧
    (∀ t' : AttributeTable, (∀ i ∈ inputs, t'.buffer? i.name = t.buffer? i.name) →
      vertexState inputs t' buffers = vertexState inputs t buffers) ∧
    ∀ (m : ShaderModule) (name : String) (i : ShaderInterface), m.reflect name = .ok i →
      i.vertexInputs = inputs → inputs.Pairwise fun i j => i.location ≤ j.location := by
  refine ⟨exists_vertexState_iff, fun s hs => ?_, fun t' ht' => vertexState_congr ht', ?_⟩
  · obtain ⟨feeds, hfeeds, -, rfl⟩ := vertexState_eq_ok_iff.1 hs
    exact laysOut_ofFeeds hfeeds
  · rintro m name i hi rfl
    exact ShaderModule.reflect_ordered hi

/-- Of three inputs, the first and the last come from one buffer. -/
example : VertexState.ofFeeds [⟨⟨7⟩, .float32x3, 0⟩, ⟨⟨3⟩, .float16x2, 1⟩, ⟨⟨7⟩, .float32, 2⟩] =
    ⟨[⟨16, [⟨.float32x3, 0, 0⟩, ⟨.float32, 12, 2⟩]⟩, ⟨4, [⟨.float16x2, 0, 1⟩]⟩], [⟨7⟩, ⟨3⟩]⟩ := by
  decide

end PassForge
