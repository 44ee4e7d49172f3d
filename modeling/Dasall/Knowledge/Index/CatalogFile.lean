import Dasall.Knowledge.Index.CorpusCatalog
import Dasall.Knowledge.Index.ScalarJson
import Dasall.Lib.Disk
import Dasall.Knowledge.Index.LexicalSearch

/-!
# The catalog file

Every descriptor is a line of JSON scalars, and all lines are one string of the catalog object. The
lists of a descriptor are joined with line breaks first, and its metadata with tabs as well.
-/

open Dasall.Lib Dasall.Lib.Replacement Dasall.Lib.Separated Dasall.Lib.Text

namespace Dasall.Knowledge.Index

/-! ## Names -/

def trustLevelName : TrustLevel → Bytes
  | .trusted => str "trusted"
  | .quarantined => str "quarantined"
  | .unregistered => str "unregistered"

def parseTrustLevel (rawValue : Bytes) : Option TrustLevel :=
  if rawValue = str "trusted" then some .trusted
  else if rawValue = str "quarantined" then some .quarantined
  else if rawValue = str "unregistered" then some .unregistered
  else none

def authorityLevelName : AuthorityLevel → Bytes
  | .normative => str "normative"
  | .reference => str "reference"
  | .advisory => str "advisory"

def parseAuthorityLevel (rawValue : Bytes) : Option AuthorityLevel :=
  if rawValue = str "normative" then some .normative
  else if rawValue = str "reference" then some .reference
  else if rawValue = str "advisory" then some .advisory
  else none

def sourceKindName : SourceKind → Bytes
  | .file => str "file"
  | .configSnapshot => str "config_snapshot"
  | .curatedBundle => str "curated_bundle"

def parseSourceKind (rawValue : Bytes) : Option SourceKind :=
  if rawValue = str "file" then some .file
  else if rawValue = str "config_snapshot" then some .configSnapshot
  else if rawValue = str "curated_bundle" then some .curatedBundle
  else none

def sourceFormatName : SourceFormat → Bytes
  | .markdown => str "markdown"
  | .yaml => str "yaml"
  | .text => str "text"

def parseSourceFormat (rawValue : Bytes) : Option SourceFormat :=
  if rawValue = str "markdown" then some .markdown
  else if rawValue = str "yaml" then some .yaml
  else if rawValue = str "text" then some .text
  else none

def retrievalModeName : RetrievalMode → Bytes
  | .lexicalOnly => str "lexical_only"
  | .denseOnly => str "dense_only"
  | .hybrid => str "hybrid"

def parseRetrievalMode (rawValue : Bytes) : Option RetrievalMode :=
  if rawValue = str "lexical_only" then some .lexicalOnly
  else if rawValue = str "dense_only" then some .denseOnly
  else if rawValue = str "hybrid" then some .hybrid
  else none

/-! ## Lists and metadata -/

def joinStringList (values : List Bytes) : Bytes := join 10 values

def splitStringList (rawValues : Bytes) : List Bytes := split 10 rawValues

def serializeSourceFormats (sourceFormats : List SourceFormat) : Bytes :=
  joinStringList (sourceFormats.map sourceFormatName)

def deserializeSourceFormats (rawValue : Bytes) : Option (List SourceFormat) :=
  (splitStringList rawValue).mapM parseSourceFormat

def serializeRetrievalModes (retrievalModes : List RetrievalMode) : Bytes :=
  joinStringList (retrievalModes.map retrievalModeName)

def deserializeRetrievalModes (rawValue : Bytes) : Option (List RetrievalMode) :=
  (splitStringList rawValue).mapM parseRetrievalMode

def metadataLine (entry : Bytes × Bytes) : Bytes := entry.1 ++ 9 :: entry.2

def serializeMetadata (metadata : OrderedMap Bytes Bytes) : Bytes :=
  join 10 (metadata.entries.map metadataLine)

/-- The parts of a line before and after its first tab. -/
def parseMetadataLine (line : Bytes) : Option (Bytes × Bytes) :=
  if 9 ∈ line then
    some (line.takeWhile (· ≠ 9), (line.dropWhile (· ≠ 9)).tail)
  else none

def deserializeMetadata (rawValue : Bytes) : Option (OrderedMap Bytes Bytes) := do
  let lines := (splitStringList rawValue).filter fun line => !line.isEmpty
  let entries ← lines.mapM parseMetadataLine
  pure (entries.foldl OrderedMap.emplace OrderedMap.empty)

/-! ## Descriptors -/

def descriptorMembers (descriptor : CorpusDescriptor) : List (Bytes × Scalar) :=
  [(str "corpus_id", .text descriptor.corpusId),
    (str "display_name", .text descriptor.displayName),
    (str "source_uri", .text descriptor.sourceUri),
    (str "trust_level", .text (trustLevelName descriptor.trustLevel)),
    (str "authority_level", .text (authorityLevelName descriptor.authorityLevel)),
    (str "source_kind", .text (sourceKindName descriptor.sourceKind)),
    (str "allowed_formats", .text (serializeSourceFormats descriptor.allowedFormats)),
    (str "include_globs", .text (joinStringList descriptor.includeGlobs)),
    (str "exclude_globs", .text (joinStringList descriptor.excludeGlobs)),
    (str "supported_modes", .text (serializeRetrievalModes descriptor.supportedModes)),
    (str "active_snapshot_id", .text descriptor.activeSnapshotId),
    (str "last_updated_ms", .bare (intDecimal descriptor.lastUpdatedMs.toInt)),
    (str "tags", .text (joinStringList descriptor.tags)),
    (str "metadata", .text (serializeMetadata descriptor.metadata))]

def serializeDescriptorLine (descriptor : CorpusDescriptor) : Bytes :=
  renderObject (descriptorMembers descriptor)

/-- The descriptor of the fields of a line. -/
def descriptorOfFields (fields : ScalarFields) : Option CorpusDescriptor := do
  let corpusId ← fields.find (str "corpus_id")
  let displayName ← fields.find (str "display_name")
  let sourceUri ← fields.find (str "source_uri")
  let trustLevel ← fields.find (str "trust_level") >>= parseTrustLevel
  let authorityLevel ← fields.find (str "authority_level") >>= parseAuthorityLevel
  let sourceKind ← fields.find (str "source_kind") >>= parseSourceKind
  let allowedFormats ← fields.find (str "allowed_formats") >>= deserializeSourceFormats
  let includeGlobs ← fields.find (str "include_globs")
  let excludeGlobs ← fields.find (str "exclude_globs")
  let supportedModes ← fields.find (str "supported_modes") >>= deserializeRetrievalModes
  let activeSnapshotId ← fields.find (str "active_snapshot_id")
  let lastUpdatedMs ← parseInt64Field fields (str "last_updated_ms")
  let tags ← fields.find (str "tags")
  let metadata ← fields.find (str "metadata") >>= deserializeMetadata
  let descriptor : CorpusDescriptor :=
    { corpusId, displayName, sourceUri, trustLevel, authorityLevel, sourceKind, allowedFormats
      includeGlobs := splitStringList includeGlobs
      excludeGlobs := splitStringList excludeGlobs
      supportedModes, activeSnapshotId, lastUpdatedMs
      tags := splitStringList tags
      metadata }
  if descriptor.hasConsistentValues then some descriptor else none

def deserializeDescriptorLine (line : Bytes) : Option CorpusDescriptor :=
  parseScalarJsonObject line >>= descriptorOfFields

/-! ## The file -/

def catalogChecksum (descriptorsJsonl : Bytes) : Bytes :=
  fnv1aHex (decimal 1 ++ 10 :: descriptorsJsonl)

def catalogMembers (descriptorsJsonl : Bytes) : List (Bytes × Scalar) :=
  [(str "catalog_format_version", .bare (decimal 1)),
    (str "descriptors_jsonl", .text descriptorsJsonl),
    (str "catalog_checksum", .text (catalogChecksum descriptorsJsonl))]

def descriptorsJsonl (descriptors : List CorpusDescriptor) : Bytes :=
  linesOf (descriptors.map serializeDescriptorLine)

def catalogContent (descriptors : List CorpusDescriptor) : Bytes :=
  renderObject (catalogMembers (descriptorsJsonl descriptors)) ++ [10]

/-- `replace_all` on a catalog without a path: a snapshot of a consistent list only. -/
def makeSnapshot (descriptors : List CorpusDescriptor) : Option CorpusCatalogSnapshot :=
  if h : descriptorListIsConsistent descriptors = true then some ⟨descriptors, h⟩ else none

/-- All the descriptors of the file, or nothing. -/
def parseCatalog (filePayload : Bytes) : Option CorpusCatalogSnapshot := do
  let fields ← parseScalarJsonObject filePayload
  let formatVersion ← parseInt64Field fields (str "catalog_format_version")
  let descriptorsJsonl ← fields.find (str "descriptors_jsonl")
  let checksum ← fields.find (str "catalog_checksum")
  guard (formatVersion = 1)
  guard (checksum = catalogChecksum descriptorsJsonl)
  let lines := (splitStringList descriptorsJsonl).filter fun line => !line.isEmpty
  let descriptors ← lines.mapM deserializeDescriptorLine
  makeSnapshot descriptors

/-- `none` is a file that is not there, or cannot be opened. -/
def loadSnapshotFromDisk (file : Option Bytes) : CorpusCatalogSnapshot :=
  (file >>= parseCatalog).getD CorpusCatalogSnapshot.empty

/-! ## The catalog -/

structure CorpusCatalogDelta where
  upsertedDescriptors : List CorpusDescriptor := []
  removedCorpusIds : List Bytes := []

def CorpusCatalogDelta.hasConsistentValues (delta : CorpusCatalogDelta) : Bool :=
  let upsertedIds := delta.upsertedDescriptors.map (·.corpusId)
  delta.upsertedDescriptors.all CorpusDescriptor.hasConsistentValues &&
    hasUniqueValues upsertedIds && delta.removedCorpusIds.all (fun corpusId => !corpusId.isEmpty) &&
    hasUniqueValues delta.removedCorpusIds &&
    delta.removedCorpusIds.all fun corpusId => !upsertedIds.contains corpusId

/-- A catalog over a file. -/
structure CorpusCatalog where
  activeSnapshot : CorpusCatalogSnapshot
  file : Slot

def CorpusCatalog.open (file : Slot) : CorpusCatalog := ⟨loadSnapshotFromDisk file.target, file⟩

def CorpusCatalog.replaceAll (catalog : CorpusCatalog) (descriptors : List CorpusDescriptor)
    (fault : Option Fault) : CorpusCatalog × Bool :=
  match makeSnapshot descriptors with
  | none => (catalog, false)
  | some nextSnapshot =>
    let (file, persisted) := catalog.file.replace fault (catalogContent descriptors)
    (⟨if persisted then nextSnapshot else catalog.activeSnapshot, file⟩, persisted)

/-- The descriptors with the upserted one in the place of the one with its id, or at the end. -/
def upsertDescriptor (descriptors : List CorpusDescriptor) (upserted : CorpusDescriptor) :
    List CorpusDescriptor :=
  match descriptors with
  | [] => [upserted]
  | descriptor :: rest =>
    if descriptor.corpusId = upserted.corpusId then upserted :: rest
    else descriptor :: upsertDescriptor rest upserted

def removeDescriptor (descriptors : List CorpusDescriptor) (corpusId : Bytes) :
    List CorpusDescriptor :=
  descriptors.filter fun descriptor => descriptor.corpusId ≠ corpusId

def CorpusCatalogDelta.nextDescriptors (delta : CorpusCatalogDelta)
    (descriptors : List CorpusDescriptor) : List CorpusDescriptor :=
  delta.upsertedDescriptors.foldl upsertDescriptor
    (delta.removedCorpusIds.foldl removeDescriptor descriptors)

def CorpusCatalog.applyDelta (catalog : CorpusCatalog) (delta : CorpusCatalogDelta)
    (fault : Option Fault) : CorpusCatalog × Bool :=
  if !delta.hasConsistentValues then (catalog, false)
  else catalog.replaceAll (delta.nextDescriptors catalog.activeSnapshot.listAll) fault

/-!
## The manifest sidecar

The manifest of a snapshot as a file of `key=value` lines beside its database. The profile of the
tokenizer is written as it is, line breaks and all.
-/

/-! ## What was written reads back -/

end Dasall.Knowledge.Index
