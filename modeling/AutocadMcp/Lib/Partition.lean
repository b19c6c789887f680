import Mathlib.Data.List.Dedup
import Mathlib.Data.List.Nodup
import Mathlib.Data.List.Pairwise
import Mathlib.Data.List.Perm.Basic
import Mathlib.Data.List.Perm.Lattice

/-!
# Partitions of a list

A partition of a list cuts its entries into blocks. Two partitions that refine each other
have the same blocks up to the order of their entries, so there is one finest partition at
most among those whose blocks keep apart.
-/

namespace AutocadMcp

variable {α : Type} {blocks others : List (List α)} {xs ys : List α}

/-- Blocks that are not empty and hold the entries of a list between them. -/
structure IsPartition (blocks : List (List α)) (xs : List α) : Prop where
  nonempty : ∀ block ∈ blocks, block ≠ []
  perm : blocks.flatten.Perm xs

/-- Every block of the one lies within a block of the other. -/
def Refines (blocks others : List (List α)) : Prop :=
  ∀ block ∈ blocks, ∃ other ∈ others, block ⊆ other

/-- A partition into blocks that keep apart, which every other one is coarser than. -/
structure IsFinest (Apart : List α → List α → Prop) (blocks : List (List α)) (xs : List α) :
    Prop where
  partition : IsPartition blocks xs
  apart : blocks.Pairwise Apart
  finest : ∀ others, IsPartition others xs → others.Pairwise Apart → Refines blocks others

namespace IsPartition

theorem of_perm (h : IsPartition blocks xs) (hperm : xs.Perm ys) : IsPartition blocks ys :=
  ⟨h.nonempty, h.perm.trans hperm⟩

theorem nodup (h : IsPartition blocks xs) (hxs : xs.Nodup) : ∀ block ∈ blocks, block.Nodup :=
  (List.nodup_flatten.mp (h.perm.nodup_iff.mpr hxs)).1

theorem disjoint (h : IsPartition blocks xs) (hxs : xs.Nodup) :
    blocks.Pairwise List.Disjoint :=
  (List.nodup_flatten.mp (h.perm.nodup_iff.mpr hxs)).2

/-- A block is known by any of its entries. -/
theorem eq_of_mem (h : IsPartition blocks xs) (hxs : xs.Nodup) {a b : List α} {x : α}
    (ha : a ∈ blocks) (hb : b ∈ blocks) (hxa : x ∈ a) (hxb : x ∈ b) : a = b := by
  by_contra hne
  have hsymm : Std.Symm (List.Disjoint (α := α)) := ⟨fun _ _ hd => hd.symm⟩
  exact (h.disjoint hxs).forall ha hb hne hxa hxb

theorem subset (h : IsPartition blocks xs) {block : List α} (hblock : block ∈ blocks) :
    block ⊆ xs := fun _ hx => h.perm.mem_iff.mp (List.mem_flatten.mpr ⟨block, hblock, hx⟩)

end IsPartition

/-- Partitions that refine each other have the same blocks. -/
theorem Refines.antisymm (hblocks : IsPartition blocks xs) (hothers : IsPartition others xs)
    (hxs : xs.Nodup) (h : Refines blocks others) (h' : Refines others blocks) :
    ∀ block ∈ blocks, ∃ other ∈ others, block.Perm other := by
  intro block hblock
  obtain ⟨other, hother, hsub⟩ := h block hblock
  obtain ⟨again, hagain, hsub'⟩ := h' other hother
  obtain ⟨x, hx⟩ := List.exists_mem_of_ne_nil block (hblocks.nonempty block hblock)
  obtain rfl := hblocks.eq_of_mem hxs hblock hagain hx (hsub' (hsub hx))
  exact ⟨other, hother, (List.perm_ext_iff_of_nodup (hblocks.nodup hxs _ hblock)
    (hothers.nodup hxs _ hother)).mpr fun y => ⟨@hsub y, @hsub' y⟩⟩

/-- There is one finest partition. -/
theorem IsFinest.unique {Apart : List α → List α → Prop} (h : IsFinest Apart blocks xs)
    (h' : IsFinest Apart others ys) (hxs : xs.Nodup) (hperm : xs.Perm ys) :
    ∀ block ∈ blocks, ∃ other ∈ others, block.Perm other :=
  Refines.antisymm h.partition (h'.partition.of_perm hperm.symm) hxs
    (h.finest others (h'.partition.of_perm hperm.symm) h'.apart)
    (h'.finest blocks (h.partition.of_perm hperm) h.apart)

/-- Blocks whose entries are brought into a normal order are the same list of blocks. -/
theorem map_perm_of_same_blocks {f : List α → List α} (hf : ∀ block, (f block).Perm block)
    (hcongr : ∀ block ∈ blocks, ∀ other ∈ others, block.Perm other → f block = f other)
    (hblocks : IsPartition blocks xs) (hothers : IsPartition others ys) (hxs : xs.Nodup)
    (hys : ys.Nodup) (h : ∀ block ∈ blocks, ∃ other ∈ others, block.Perm other)
    (h' : ∀ other ∈ others, ∃ block ∈ blocks, other.Perm block) :
    (blocks.map f).Perm (others.map f) := by
  have hnodup : ∀ {bs : List (List α)} {zs : List α}, IsPartition bs zs → zs.Nodup →
      (bs.map f).Nodup := by
    intro bs zs hbs hzs
    rw [List.Nodup, List.pairwise_map]
    refine List.Pairwise.imp_of_mem (fun {a b} ha hb hd heq => ?_) (hbs.disjoint hzs)
    obtain ⟨x, hx⟩ := List.exists_mem_of_ne_nil a (hbs.nonempty a ha)
    have hmem : x ∈ b := (hf b).mem_iff.mp (heq ▸ (hf a).mem_iff.mpr hx)
    exact hd hx hmem
  refine (List.perm_ext_iff_of_nodup (hnodup hblocks hxs) (hnodup hothers hys)).mpr fun z => ?_
  constructor
  · intro hz
    obtain ⟨block, hblock, rfl⟩ := List.mem_map.mp hz
    obtain ⟨other, hother, hperm⟩ := h block hblock
    exact List.mem_map.mpr ⟨other, hother, (hcongr block hblock other hother hperm).symm⟩
  · intro hz
    obtain ⟨other, hother, rfl⟩ := List.mem_map.mp hz
    obtain ⟨block, hblock, hperm⟩ := h' other hother
    exact List.mem_map.mpr ⟨block, hblock, hcongr block hblock other hother hperm.symm⟩

/-- The finest partition stays finest when its blocks and their entries are put in order. -/
theorem IsFinest.reorder {Apart : List α → List α → Prop}
    (hsymm : ∀ {a b}, Apart a b → Apart b a)
    (hcongr : ∀ {a a' b b' : List α}, a.Perm a' → b.Perm b' → Apart a b → Apart a' b')
    {f : List α → List α} (hf : ∀ block, (f block).Perm block) (hperm : blocks.Perm others)
    (h : IsFinest Apart blocks xs) : IsFinest Apart (others.map f) xs := by
  refine ⟨⟨?_, ?_⟩, ?_, ?_⟩
  · intro block hblock
    obtain ⟨other, hother, rfl⟩ := List.mem_map.mp hblock
    intro hnil
    have hempty := (hf other).symm
    rw [hnil, List.perm_nil] at hempty
    exact h.partition.nonempty other (hperm.mem_iff.mpr hother) hempty
  · have hentries : (others.map f).flatten.Perm others.flatten := by
      rw [← List.flatMap_def, ← List.flatMap_id']
      exact List.Perm.flatMap_left others fun block _ => hf block
    exact hentries.trans (hperm.symm.flatten.trans h.partition.perm)
  · rw [List.pairwise_map]
    refine ((hperm.pairwise_iff hsymm).mp h.apart).imp fun hapart => ?_
    exact hcongr (hf _).symm (hf _).symm hapart
  · intro coarser hcoarser hapart block hblock
    obtain ⟨other, hother, rfl⟩ := List.mem_map.mp hblock
    obtain ⟨large, hlarge, hsub⟩ := h.finest coarser hcoarser hapart other
      (hperm.mem_iff.mpr hother)
    exact ⟨large, hlarge, fun x hx => hsub ((hf other).mem_iff.mp hx)⟩

end AutocadMcp
