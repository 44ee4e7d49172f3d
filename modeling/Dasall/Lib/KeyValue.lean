import Dasall.Lib.Text

/-!
# Text files of `key=value` lines

`writeEntries` writes the lines, `parseKeyValueFile` reads them with `std::getline`.
An entry without a value stands for an optional write that writes nothing.
-/

open Dasall.Lib.Text

namespace Dasall.Lib.KeyValue

abbrev Entry := Bytes × Option Bytes
abbrev Fields := List (Bytes × Bytes)

def writeEntry (entry : Entry) : Bytes :=
  match entry.2 with
  | some value => entry.1 ++ 61 :: (value ++ [10])
  | none => []

def writeEntries (entries : List Entry) : Bytes := entries.flatMap writeEntry

/-! ## Reading -/

/-- The lines that repeated `std::getline` calls return. No line comes from the end of a
file that ends in a line break. -/
def getlines : Bytes → List Bytes
  | [] => []
  | b :: rest =>
    if b = 10 then [] :: getlines rest
    else match getlines rest with
      | [] => [[b]]
      | line :: lines => (b :: line) :: lines

/-- Splits a line at its first equals sign. -/
def splitField : Bytes → Option (Bytes × Bytes)
  | [] => none
  | b :: rest =>
    if b = 61 then some ([], rest)
    else (splitField rest).map fun field => (b :: field.1, field.2)

/-- Empty lines are skipped, a line without an equals sign fails the file. -/
def parseLines : List Bytes → Option Fields
  | [] => some []
  | [] :: lines => parseLines lines
  | line :: lines => do
    let field ← splitField line
    let fields ← parseLines lines
    some (field :: fields)

def parseKeyValueFile (text : Bytes) : Option Fields := parseLines (getlines text)

/-- The value of a key. `unordered_map::emplace` keeps the first of two equal keys. -/
def find (fields : Fields) (key : Bytes) : Option Bytes := fields.lookup key

/-! ## What was written reads back -/

/-- Neither a line break in the entry nor an equals sign in its key. -/
def CleanEntry (entry : Entry) : Prop :=
  (∀ b ∈ entry.1, b ≠ 10 ∧ b ≠ 61) ∧ ∀ value, entry.2 = some value → ∀ b ∈ value, b ≠ 10

/-- The fields of the entries that have a value. -/
def present (entries : List Entry) : Fields :=
  entries.filterMap fun entry => entry.2.map fun value => (entry.1, value)

theorem getlines_append (line rest : Bytes) (h : ∀ b ∈ line, b ≠ 10) :
    getlines (line ++ 10 :: rest) = line :: getlines rest := by
  induction line with
  | nil => simp [getlines]
  | cons b line ih =>
    have hb : b ≠ 10 := h b List.mem_cons_self
    have ih := ih fun c hc => h c (List.mem_cons_of_mem _ hc)
    simp [getlines, hb, ih]

variable (entries : List Entry) (key value : Bytes)

theorem splitField_append (h : ∀ b ∈ key, b ≠ 61) :
    splitField (key ++ 61 :: value) = some (key, value) := by
  induction key with
  | nil => simp [splitField]
  | cons b key ih =>
    have hb : b ≠ 61 := h b List.mem_cons_self
    have ih := ih fun c hc => h c (List.mem_cons_of_mem _ hc)
    simp [splitField, hb, ih]

theorem getlines_writeEntry (rest : Bytes) (h : CleanEntry (key, some value)) :
    getlines (writeEntry (key, some value) ++ rest) = (key ++ 61 :: value) :: getlines rest := by
  have hline : ∀ b ∈ key ++ 61 :: value, b ≠ 10 := by
    intro b hb
    rw [List.mem_append, List.mem_cons] at hb
    rcases hb with hb | rfl | hb
    · exact (h.1 b hb).1
    · decide
    · exact h.2 value rfl b hb
  have hsplit : writeEntry (key, some value) ++ rest = (key ++ 61 :: value) ++ 10 :: rest := by
    simp [writeEntry]
  rw [hsplit, getlines_append _ _ hline]

theorem parseLines_cons (lines : List Bytes) (h : ∀ b ∈ key, b ≠ 61) :
    parseLines ((key ++ 61 :: value) :: lines) =
      (parseLines lines).map fun fields => (key, value) :: fields := by
  have hsplit := splitField_append key value h
  obtain ⟨c, line, hline⟩ : ∃ c line, key ++ 61 :: value = c :: line := by
    cases key with
    | nil => exact ⟨61, value, rfl⟩
    | cons b key => exact ⟨b, key ++ 61 :: value, rfl⟩
  rw [hline] at hsplit ⊢
  simp only [parseLines, hsplit, Option.bind_eq_bind, Option.bind_some]
  cases parseLines lines <;> rfl

theorem parse_writeEntries (h : ∀ entry ∈ entries, CleanEntry entry) :
    parseKeyValueFile (writeEntries entries) = some (present entries) := by
  induction entries with
  | nil => rfl
  | cons entry entries ih =>
    have hhead := h entry List.mem_cons_self
    have ih := ih fun e he => h e (List.mem_cons_of_mem _ he)
    obtain ⟨key, value⟩ := entry
    unfold parseKeyValueFile writeEntries at ih ⊢
    rw [List.flatMap_cons]
    cases value with
    | none => simpa [writeEntry, present] using ih
    | some value =>
      rw [getlines_writeEntry key value _ hhead, parseLines_cons _ _ _ fun b hb => (hhead.1 b hb).2,
        ih]
      simp [present]

/-- Each key of the entries reads back the value, or the absence, that was written for it. -/
theorem find_present (hkeys : (entries.map Prod.fst).Nodup)
    (key : Bytes) (value : Option Bytes) (hmem : (key, value) ∈ entries) :
    find (present entries) key = value := by
  unfold find
  induction entries with
  | nil => simp at hmem
  | cons entry entries ih =>
    obtain ⟨k, v⟩ := entry
    rw [List.map_cons, List.nodup_cons] at hkeys
    obtain ⟨hfresh, hkeys⟩ := hkeys
    by_cases hk : k = key
    · -- The head holds the key, and no later entry does.
      subst hk
      have hv : value = v := by
        rcases List.mem_cons.mp hmem with heq | hrest
        · exact (Prod.mk.inj heq).2
        · exact absurd (List.mem_map_of_mem (f := Prod.fst) hrest) hfresh
      subst hv
      cases value with
      | some value => simp [present]
      | none =>
        have hnone : ∀ field ∈ present entries, field.1 ≠ k := by
          intro field hfield hk
          obtain ⟨e, he, hfe⟩ := List.mem_filterMap.mp hfield
          obtain ⟨w, -, rfl⟩ := Option.map_eq_some_iff.mp hfe
          exact hfresh (List.mem_map.mpr ⟨e, he, hk⟩)
        have hskip : present ((k, none) :: entries) = present entries := by simp [present]
        rw [hskip, List.lookup_eq_none_iff]
        intro field hfield
        simpa using (hnone field hfield).symm
    · have hrest : (key, value) ∈ entries := by
        rcases List.mem_cons.mp hmem with heq | hrest
        · exact absurd (Prod.mk.inj heq).1.symm hk
        · exact hrest
      have ih := ih hkeys hrest
      cases v with
      | none => simpa [present] using ih
      | some v =>
        have hne : (key == k) = false := by simpa using fun heq : key = k => hk heq.symm
        simpa [present, List.lookup_cons, hne] using ih

/-- The fields hold what each entry wrote. -/
def Reads (fields : Fields) (entries : List Entry) : Prop :=
  ∀ entry ∈ entries, find fields entry.1 = entry.2

/-- A file of clean entries with distinct keys parses into fields that hold them all. -/
theorem parse_reads (hclean : ∀ entry ∈ entries, CleanEntry entry)
    (hkeys : (entries.map Prod.fst).Nodup) :
    ∃ fields, parseKeyValueFile (writeEntries entries) = some fields ∧ Reads fields entries :=
  ⟨present entries, parse_writeEntries entries hclean,
    fun entry hentry => find_present entries hkeys entry.1 entry.2 hentry⟩

end Dasall.Lib.KeyValue
