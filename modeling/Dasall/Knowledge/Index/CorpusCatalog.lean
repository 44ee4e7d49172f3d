import Dasall.Knowledge.Types

/-!
# Corpus catalog snapshots

A snapshot is built of a consistent list of descriptors only, and keeps that list. Its two indices
follow from the list: ids and addresses are unique in it.
-/

open Dasall.Lib Dasall.Lib.Text

namespace Dasall.Knowledge.Index

def descriptorListIsConsistent (descriptors : List CorpusDescriptor) : Bool :=
  descriptors.all CorpusDescriptor.hasConsistentValues &&
    hasUniqueValues (descriptors.map (·.corpusId)) &&
    hasUniqueValues (descriptors.map (·.sourceUri))

structure CorpusCatalogSnapshot where
  descriptors : List CorpusDescriptor
  consistent : descriptorListIsConsistent descriptors = true

namespace CorpusCatalogSnapshot

@[ext] theorem ext {first second : CorpusCatalogSnapshot}
    (h : first.descriptors = second.descriptors) : first = second := by
  cases first
  cases second
  congr

instance : DecidableEq CorpusCatalogSnapshot := fun first second =>
  decidable_of_iff (first.descriptors = second.descriptors) CorpusCatalogSnapshot.ext_iff.symm

def empty : CorpusCatalogSnapshot := ⟨[], rfl⟩

def listAll (snapshot : CorpusCatalogSnapshot) : List CorpusDescriptor := snapshot.descriptors

/-- `descriptor_matches_all_tags`: the tags are compared byte by byte. -/
def descriptorMatchesAllTags (descriptor : CorpusDescriptor) (tags : List Bytes) : Bool :=
  tags.all fun tag => descriptor.tags.contains tag

def filterByTags (snapshot : CorpusCatalogSnapshot) (tags : List Bytes) : List CorpusDescriptor :=
  if tags.isEmpty then snapshot.listAll
  else snapshot.descriptors.filter fun descriptor => descriptorMatchesAllTags descriptor tags

theorem mem_filterByTags (snapshot : CorpusCatalogSnapshot) (tags : List Bytes)
    (descriptor : CorpusDescriptor) :
    descriptor ∈ snapshot.filterByTags tags ↔
      descriptor ∈ snapshot.descriptors ∧ ∀ tag ∈ tags, tag ∈ descriptor.tags := by
  unfold filterByTags listAll
  split
  next h =>
    rw [List.isEmpty_iff] at h
    simp [h]
  next => simp [descriptorMatchesAllTags]

end CorpusCatalogSnapshot

end Dasall.Knowledge.Index
