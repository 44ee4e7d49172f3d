import Dasall.Lib.KeyValue
import Dasall.Lib.Separated
import Mathlib.Data.List.DropRight
import Mathlib.Data.List.Nodup

/-!
# The reader of profile files

The reader knows of the file only the keys above the line it reads, each with its indentation.
A line closes the keys that are indented at least as far as it is.
-/

open Dasall.Lib Dasall.Lib.Text

namespace Dasall.Profiles.Yaml

/-! ## The reader -/

def isBlank (b : Byte) : Bool := b = 32 || b = 9 || b = 13 || b = 10

def trimCopy (value : Bytes) : Bytes := (value.dropWhile isBlank).rdropWhile isBlank

def isIndent (b : Byte) : Bool := b = 32 || b = 9

def countIndent (line : Bytes) : Nat := (line.takeWhile isIndent).length

def joinPath (path : List (Nat × Bytes)) (leafKey : Bytes) : Bytes :=
  Separated.join 46 (path.map (·.2) ++ if leafKey = [] then [] else [leafKey])

def stripInlineComment (value : Bytes) : Bytes := trimCopy (value.takeWhile (· ≠ 35))

structure ParsedProfileYaml where
  scalarValues : Bytes → Option Bytes := fun _ => none
  listValues : Bytes → Option (List Bytes) := fun _ => none
  ok : Bool := false
  error : Bytes := []

/-- What has been read, under the keys that are open. -/
structure Reading where
  pathStack : List (Nat × Bytes) := []
  scalarValues : Bytes → Option Bytes := fun _ => none
  listValues : Bytes → Option (List Bytes) := fun _ => none

def closeFrom (pathStack : List (Nat × Bytes)) (indent : Nat) : List (Nat × Bytes) :=
  pathStack.rdropWhile fun node => indent ≤ node.1

def setScalar (values : Bytes → Option Bytes) (path value : Bytes) : Bytes → Option Bytes :=
  Function.update values path (some value)

def pushItems (values : Bytes → Option (List Bytes)) (path : Bytes) (items : List Bytes) :
    Bytes → Option (List Bytes) :=
  Function.update values path (some ((values path).getD [] ++ items))

def readLine (reading : Reading) (rawLine : Bytes) : Except Bytes Reading :=
  let trimmed := trimCopy rawLine
  let indent := countIndent rawLine
  if trimmed = [] ∨ trimmed.head? = some 35 then .ok reading
  else if trimmed.take 2 = [45, 32] then
    let pathStack := closeFrom reading.pathStack indent
    if pathStack = [] then .error (str "yaml list item is missing parent key")
    else
      .ok { reading with
        pathStack
        listValues := pushItems reading.listValues (joinPath pathStack [])
          [stripInlineComment (trimmed.drop 2)] }
  else if 58 ∉ trimmed then .error (str "yaml line missing colon separator")
  else
    let key := trimCopy (trimmed.takeWhile (· ≠ 58))
    let value := stripInlineComment ((trimmed.dropWhile (· ≠ 58)).drop 1)
    let pathStack := closeFrom reading.pathStack indent
    if value = [] then .ok { reading with pathStack := pathStack ++ [(indent, key)] }
    else
      .ok { reading with
        pathStack
        scalarValues := setScalar reading.scalarValues (joinPath pathStack key) value }

/-- A file that cannot be opened has no text. -/
def parseProfileYamlFile (text : Option Bytes) : ParsedProfileYaml :=
  match text with
  | none => { error := str "unable to open yaml file" }
  | some text =>
    match (KeyValue.getlines text).foldlM readLine {} with
    | .error error => { error }
    | .ok reading =>
      { scalarValues := reading.scalarValues, listValues := reading.listValues, ok := true }

/-! ## Trees and how they are written -/

inductive Leaf
  | scalar (value : Bytes)
  | list (items : List Bytes)

/-- The entries of a mapping. -/
inductive Forest
  | nil
  | leaf (key : Bytes) (content : Leaf) (rest : Forest)
  | mapping (key : Bytes) (children rest : Forest)

namespace Forest

def keys : Forest → List Bytes
  | nil => []
  | leaf key _ rest => key :: rest.keys
  | mapping key _ rest => key :: rest.keys

/-- The leaves, each with the keys that lead to it. -/
def leaves (above : List Bytes) : Forest → List (List Bytes × Leaf)
  | nil => []
  | leaf key content rest => (above ++ [key], content) :: rest.leaves above
  | mapping key children rest => children.leaves (above ++ [key]) ++ rest.leaves above

end Forest

def CleanKey (key : Bytes) : Prop :=
  (∀ b ∈ key, b ≠ 58 ∧ b ≠ 35 ∧ b ≠ 46 ∧ isBlank b = false) ∧ key.head? ≠ some 45

/-- The text neither begins nor ends with a blank. -/
def Trimmed (text : Bytes) : Prop :=
  (∀ b ∈ text.head?, isBlank b = false) ∧ ∀ b ∈ text.getLast?, isBlank b = false

structure CleanScalar (value : Bytes) : Prop where
  nonempty : value ≠ []
  free : ∀ b ∈ value, b ≠ 35 ∧ b ≠ 10
  trimmed : Trimmed value

def Leaf.Clean : Leaf → Prop
  | .scalar value => CleanScalar value
  | .list items => items ≠ [] ∧ ∀ item ∈ items, CleanScalar item

/-- The tree is made of clean keys and leaves, and siblings have different keys. -/
def Forest.Clean : Forest → Prop
  | .nil => True
  | .leaf key content rest => CleanKey key ∧ content.Clean ∧ key ∉ rest.keys ∧ rest.Clean
  | .mapping key children rest => CleanKey key ∧ children.Clean ∧ key ∉ rest.keys ∧ rest.Clean

/-- No key is empty. -/
def Forest.Named : Forest → Prop
  | .nil => True
  | .leaf key _ rest => key ≠ [] ∧ rest.Named
  | .mapping key children rest => key ≠ [] ∧ children.Named ∧ rest.Named

/-- An indentation of `n` blanks. -/
def Indents (n : Nat) (indentation : Bytes) : Prop :=
  indentation.length = n ∧ ∀ b ∈ indentation, isIndent b = true

/-- A blank line or a comment. -/
def Skipped (line : Bytes) : Prop :=
  10 ∉ line ∧ ∃ blanks, (∀ b ∈ blanks, isBlank b = true) ∧
    (line = blanks ∨ ∃ comment, line = blanks ++ 35 :: comment)

/-- The items of a list, one line each. -/
inductive RendersItems (n : Nat) : List Bytes → List Bytes → Prop
  | nil : RendersItems n [] []
  | skip {items lines line} (hline : Skipped line) (h : RendersItems n items lines) :
    RendersItems n items (line :: lines)
  | item {items lines indentation item} (hindent : Indents n indentation)
    (h : RendersItems n items lines) :
    RendersItems n (item :: items) ((indentation ++ 45 :: 32 :: item) :: lines)

/-- The lines of a mapping in block style, indented by `n`. What is below a key is indented further,
by the same amount in all of its block. -/
inductive Renders : Nat → Forest → List Bytes → Prop
  | nil {n} : Renders n .nil []
  | skip {n forest lines line} (hline : Skipped line) (h : Renders n forest lines) :
    Renders n forest (line :: lines)
  | scalar {n key value rest lines indentation} (hindent : Indents n indentation)
    (h : Renders n rest lines) :
    Renders n (.leaf key (.scalar value) rest) ((indentation ++ key ++ 58 :: 32 :: value) :: lines)
  | list {n deeper key items rest itemLines lines indentation} (hindent : Indents n indentation)
    (hdeeper : n < deeper) (hitems : RendersItems deeper items itemLines)
    (h : Renders n rest lines) :
    Renders n (.leaf key (.list items) rest) ((indentation ++ key ++ [58]) :: (itemLines ++ lines))
  | mapping {n deeper key children rest childLines lines indentation}
    (hindent : Indents n indentation) (hdeeper : n < deeper)
    (hchildren : Renders deeper children childLines) (h : Renders n rest lines) :
    Renders n (.mapping key children rest) ((indentation ++ key ++ [58]) :: (childLines ++ lines))

def unlines (lines : List Bytes) : Bytes := lines.flatMap (· ++ [10])

def dotted (keys : List Bytes) : Bytes := Separated.join 46 keys

/-- The file was read, and what was read is the leaves of the tree. -/
structure ReadBack (forest : Forest) (parsed : ParsedProfileYaml) : Prop where
  ok : parsed.ok = true
  scalars : ∀ path value, parsed.scalarValues path = some value ↔
    ∃ keys, (keys, Leaf.scalar value) ∈ forest.leaves [] ∧ path = dotted keys
  lists : ∀ path items, parsed.listValues path = some items ↔
    ∃ keys, (keys, Leaf.list items) ∈ forest.leaves [] ∧ path = dotted keys

/-! ## One line -/

section
variable {text key rest value item indentation : Bytes} {n : Nat} {reading : Reading}
  {outer stale : List (Nat × Bytes)}

theorem isBlank_of_isIndent {b : Byte} (h : isIndent b = true) : isBlank b = true := by
  simp only [isIndent, isBlank, Bool.or_eq_true, decide_eq_true_eq] at h ⊢
  exact .inl (.inl h)

theorem Indents.blank (h : Indents n indentation) : ∀ b ∈ indentation, isBlank b = true :=
  fun b hb => isBlank_of_isIndent (h.2 b hb)

variable {blanks : Bytes}

theorem trimCopy_append (hblanks : ∀ b ∈ blanks, isBlank b = true)
    (h : Trimmed text) : trimCopy (blanks ++ text) = text := by
  have hfront : text.dropWhile isBlank = text := by
    cases text with
    | nil => rfl
    | cons b text => exact List.dropWhile_cons_of_neg (by simp [h.1 b rfl])
  unfold trimCopy
  rw [List.dropWhile_append_of_pos hblanks, hfront, List.rdropWhile_eq_self_iff]
  intro hne
  simp [h.2 _ (List.getLast?_eq_getLast_of_ne_nil hne)]

theorem trimCopy_self (h : Trimmed text) : trimCopy text = text :=
  @trimCopy_append text [] (by simp) h

theorem countIndent_append (hindent : Indents n indentation)
    (h : ∀ b ∈ text.head?, isBlank b = false) : countIndent (indentation ++ text) = n := by
  unfold countIndent
  rw [List.takeWhile_append_of_pos hindent.2]
  cases text with
  | nil => simpa using hindent.1
  | cons b text =>
    have hb : isIndent b = false := by
      by_contra hb
      rw [Bool.not_eq_false] at hb
      exact absurd (isBlank_of_isIndent hb) (by simp [h b rfl])
    simpa [hb] using hindent.1

theorem stripInlineComment_eq (hblanks : ∀ b ∈ blanks, isBlank b = true)
    (h : CleanScalar value) : stripInlineComment (blanks ++ value) = value := by
  have hfree : ∀ b ∈ blanks ++ value, decide (b ≠ 35) = true := by
    intro b hb
    rw [decide_eq_true_eq]
    rcases List.mem_append.mp hb with hblank | hvalue
    · rintro rfl
      exact absurd (hblanks 35 hblank) (by decide)
    · exact (h.free b hvalue).1
  unfold stripInlineComment
  rw [List.takeWhile_eq_self_iff.mpr hfree, trimCopy_append hblanks h.trimmed]

theorem closeFrom_append (houter : ∀ node ∈ outer, node.1 < n)
    (hstale : ∀ node ∈ stale, n ≤ node.1) : closeFrom (outer ++ stale) n = outer := by
  unfold closeFrom
  induction stale using List.reverseRecOn with
  | nil =>
    rw [List.append_nil, List.rdropWhile_eq_self_iff]
    intro hne
    have hlast := houter _ (List.getLast_mem hne)
    simp only [decide_eq_true_eq]
    omega
  | append_singleton stale node ih =>
    rw [← List.append_assoc, List.rdropWhile_concat_pos]
    · exact ih fun other hother => hstale other (List.mem_append_left _ hother)
    · exact decide_eq_true (hstale node (List.mem_append_right _ List.mem_cons_self))

theorem head_trimCopy_comment (hblanks : ∀ b ∈ blanks, isBlank b = true)
    (comment : Bytes) : (trimCopy (blanks ++ 35 :: comment)).head? = some 35 := by
  unfold trimCopy
  rw [List.dropWhile_append_of_pos hblanks, List.dropWhile_cons_of_neg (by decide)]
  obtain ⟨dropped, hprefix⟩ := List.rdropWhile_prefix isBlank (35 :: comment)
  cases hkept : (35 :: comment).rdropWhile isBlank with
  | nil =>
    have hall := List.rdropWhile_eq_nil_iff.mp hkept 35 List.mem_cons_self
    cases hall
  | cons b kept =>
    rw [hkept] at hprefix
    rw [(List.cons.inj hprefix).1]
    rfl

theorem readLine_skipped {line : Bytes} (h : Skipped line) : readLine reading line = .ok reading := by
  obtain ⟨-, blanks, hblanks, hline⟩ := h
  have htrimmed : trimCopy line = [] ∨ (trimCopy line).head? = some 35 := by
    rcases hline with rfl | ⟨comment, rfl⟩
    · have hnone : Trimmed [] := ⟨by simp, by simp⟩
      exact .inl (by simpa using trimCopy_append hblanks hnone)
    · exact .inr (head_trimCopy_comment hblanks comment)
  unfold readLine
  rw [if_pos htrimmed]

variable (hindent : Indents n indentation) (houter : ∀ node ∈ outer, node.1 < n)
  (hstale : ∀ node ∈ stale, n ≤ node.1) (hstack : reading.pathStack = outer ++ stale)

include hindent houter hstale hstack

/-- A line that names a key closes what is not above it. -/
theorem readLine_key (hkey : CleanKey key) (hne : key ≠ [])
    (htrimmed : Trimmed (key ++ 58 :: rest)) :
    readLine reading (indentation ++ (key ++ 58 :: rest)) =
      if stripInlineComment rest = [] then .ok { reading with pathStack := outer ++ [(n, key)] }
      else
        .ok { reading with
          pathStack := outer
          scalarValues :=
            setScalar reading.scalarValues (joinPath outer key) (stripInlineComment rest) } := by
  obtain ⟨first, others, rfl⟩ := List.exists_cons_of_ne_nil hne
  have hfirst := hkey.1 first List.mem_cons_self
  have hdash : first ≠ 45 := fun h => hkey.2 (by rw [h]; rfl)
  have hfree : (58 : Byte) ∉ first :: others := fun h => (hkey.1 58 h).1 rfl
  have hdrop : ((first :: others) ++ 58 :: rest).dropWhile (· ≠ 58) = 58 :: rest := by
    rw [List.dropWhile_append_of_pos, List.dropWhile_cons_of_neg (by decide)]
    intro b hb
    exact decide_eq_true fun h => hfree (h ▸ hb)
  have hself : trimCopy (first :: others) = first :: others := by
    refine trimCopy_self ⟨fun b hb => ?_, fun b hb => ?_⟩
    · exact (hkey.1 b (List.mem_of_mem_head? hb)).2.2.2
    · exact (hkey.1 b (List.mem_of_mem_getLast? hb)).2.2.2
  unfold readLine
  simp only [trimCopy_append hindent.blank htrimmed, countIndent_append hindent htrimmed.1, hstack,
    closeFrom_append houter hstale]
  rw [if_neg (by simp [hfirst]), if_neg (by simp [hdash]), if_neg (by simp),
    Separated.takeWhile_piece 58 rest hfree, hself, hdrop]
  rfl

theorem readLine_scalar (hkey : CleanKey key) (hne : key ≠ []) (hvalue : CleanScalar value) :
    readLine reading (indentation ++ key ++ 58 :: 32 :: value) =
      .ok { reading with
        pathStack := outer
        scalarValues := setScalar reading.scalarValues (joinPath outer key) value } := by
  have htrimmed : Trimmed (key ++ 58 :: 32 :: value) := by
    constructor
    · intro b hb
      rw [List.head?_append_of_ne_nil _ hne] at hb
      exact (hkey.1 b (List.mem_of_mem_head? hb)).2.2.2
    · intro b hb
      rw [List.append_cons, List.append_cons, List.getLast?_append_of_ne_nil _ hvalue.nonempty] at hb
      exact hvalue.trimmed.2 b hb
  have hstrip : stripInlineComment (32 :: value) = value :=
    @stripInlineComment_eq value [32] (by decide) hvalue
  rw [List.append_assoc, readLine_key hindent houter hstale hstack hkey hne htrimmed, hstrip,
    if_neg hvalue.nonempty]

theorem readLine_header (hkey : CleanKey key) (hne : key ≠ []) :
    readLine reading (indentation ++ key ++ [58]) =
      .ok { reading with pathStack := outer ++ [(n, key)] } := by
  have htrimmed : Trimmed (key ++ [58]) := by
    constructor
    · intro b hb
      rw [List.head?_append_of_ne_nil _ hne] at hb
      exact (hkey.1 b (List.mem_of_mem_head? hb)).2.2.2
    · intro b hb
      rw [List.getLast?_concat, Option.mem_some_iff] at hb
      subst hb
      rfl
  have hnone : stripInlineComment [] = [] := rfl
  rw [List.append_assoc, readLine_key hindent houter hstale hstack hkey hne htrimmed, hnone,
    if_pos rfl]

theorem readLine_item (hitem : CleanScalar item) (hne : outer ≠ []) :
    readLine reading (indentation ++ 45 :: 32 :: item) =
      .ok { reading with
        pathStack := outer
        listValues := pushItems reading.listValues (joinPath outer []) [item] } := by
  have htrimmed : Trimmed (45 :: 32 :: item) := by
    constructor
    · intro b hb
      cases hb
      rfl
    · intro b hb
      rw [← List.singleton_append, List.append_cons,
        List.getLast?_append_of_ne_nil _ hitem.nonempty] at hb
      exact hitem.trimmed.2 b hb
  have hdash : (45 :: 32 :: item).take 2 = [45, 32] := rfl
  have hstrip : stripInlineComment item = item :=
    @stripInlineComment_eq item [] (by simp) hitem
  unfold readLine
  simp only [trimCopy_append hindent.blank htrimmed, countIndent_append hindent htrimmed.1, hstack,
    closeFrom_append houter hstale]
  rw [if_neg (by simp), if_pos hdash, if_neg hne, List.drop_succ_cons, List.drop_succ_cons,
    List.drop_zero, hstrip]

end

/-! ## A block -/

/-- What a leaf adds to what has been read. -/
def store (reading : Reading) (entry : List Bytes × Leaf) : Reading :=
  match entry.2 with
  | .scalar value =>
    { reading with scalarValues := setScalar reading.scalarValues (dotted entry.1) value }
  | .list items =>
    { reading with listValues := pushItems reading.listValues (dotted entry.1) items }

theorem foldl_store_stack (entries : List (List Bytes × Leaf)) (reading : Reading)
    (pathStack : List (Nat × Bytes)) :
    entries.foldl store { reading with pathStack } =
      { entries.foldl store reading with pathStack } := by
  induction entries generalizing reading with
  | nil => rfl
  | cons entry entries ih =>
    have hstore : store { reading with pathStack } entry = { store reading entry with pathStack } := by
      unfold store
      split
      · rfl
      · rfl
    rw [List.foldl_cons, List.foldl_cons, hstore, ih]

theorem joinPath_leaf (path : List (Nat × Bytes)) {key : Bytes} (h : key ≠ []) :
    joinPath path key = dotted (path.map (·.2) ++ [key]) := by
  unfold joinPath dotted
  rw [if_neg h]

theorem joinPath_nil (path : List (Nat × Bytes)) : joinPath path [] = dotted (path.map (·.2)) := by
  unfold joinPath dotted
  rw [if_pos rfl, List.append_nil]

theorem foldl_pushItems (values : Bytes → Option (List Bytes)) (path : Bytes)
    (before items : List Bytes) :
    items.foldl (fun values item => pushItems values path [item]) (pushItems values path before) =
      pushItems values path (before ++ items) := by
  induction items generalizing before with
  | nil => simp
  | cons item items ih =>
    have hpush : pushItems (pushItems values path before) path [item] =
        pushItems values path (before ++ [item]) := by
      unfold pushItems
      rw [Function.update_self, Function.update_idem, Option.getD_some, List.append_assoc]
    rw [List.foldl_cons, hpush, ih, List.append_assoc, List.singleton_append]

section
variable {outer stale : List (Nat × Bytes)} {n deeper : Nat} {key : Bytes}

/-- A block below a key is deeper than the key and than all above it. -/
theorem deeper_of_open (houter : ∀ node ∈ outer, node.1 < n) (hdeeper : n < deeper) :
    ∀ node ∈ outer ++ [(n, key)], node.1 < deeper := by
  intro node hnode
  rcases List.mem_append.mp hnode with hold | hnew
  · exact (houter node hold).trans hdeeper
  · rw [List.mem_singleton.mp hnew]
    exact hdeeper

theorem stale_of_closed (hdeeper : n < deeper) (hstale : ∀ node ∈ stale, deeper ≤ node.1) :
    ∀ node ∈ [(n, key)] ++ stale, n ≤ node.1 := by
  intro node hnode
  rcases List.mem_append.mp hnode with hnew | hold
  · rw [List.mem_singleton.mp hnew]
  · exact hdeeper.le.trans (hstale node hold)

end

variable {n : Nat}

theorem foldlM_items {items lines : List Bytes} (h : RendersItems n items lines)
    (hclean : ∀ item ∈ items, CleanScalar item) {outer stale : List (Nat × Bytes)}
    (houter : ∀ node ∈ outer, node.1 < n) (hne : outer ≠ []) (hstale : ∀ node ∈ stale, n ≤ node.1)
    {reading : Reading} (hstack : reading.pathStack = outer ++ stale) :
    ∃ stale', (∀ node ∈ stale', n ≤ node.1) ∧
      lines.foldlM readLine reading = .ok
        { reading with
          pathStack := outer ++ stale'
          listValues := items.foldl
            (fun values item => pushItems values (dotted (outer.map (·.2))) [item])
            reading.listValues } := by
  induction h generalizing reading stale with
  | nil => exact ⟨stale, hstale, by simp [← hstack, pure, Except.pure]⟩
  | skip hline h ih =>
    obtain ⟨stale', hstale', hlines⟩ := ih hclean hstale hstack
    refine ⟨stale', hstale', ?_⟩
    rw [List.foldlM_cons, readLine_skipped hline]
    exact hlines
  | @item items lines indentation item hindent h ih =>
    obtain ⟨hitem, hrest⟩ := List.forall_mem_cons.mp hclean
    have hline := readLine_item hindent houter hstale hstack hitem hne
    rw [joinPath_nil] at hline
    obtain ⟨stale', hstale', hlines⟩ := @ih hrest [] (by simp)
      { reading with
        pathStack := outer
        listValues := pushItems reading.listValues (dotted (outer.map (·.2))) [item] }
      (List.append_nil outer).symm
    refine ⟨stale', hstale', ?_⟩
    rw [List.foldlM_cons, hline]
    exact hlines

variable {forest : Forest}

/-- A block is read under the keys above it. It leaves only keys of its own behind. -/
theorem foldlM_renders {lines : List Bytes} (h : Renders n forest lines)
    (hclean : forest.Clean) (hnamed : forest.Named) {outer stale : List (Nat × Bytes)}
    (houter : ∀ node ∈ outer, node.1 < n) (hstale : ∀ node ∈ stale, n ≤ node.1)
    {reading : Reading} (hstack : reading.pathStack = outer ++ stale) :
    ∃ stale', (∀ node ∈ stale', n ≤ node.1) ∧
      lines.foldlM readLine reading = .ok
        { (forest.leaves (outer.map (·.2))).foldl store reading with
          pathStack := outer ++ stale' } := by
  induction h generalizing reading outer stale with
  | nil => exact ⟨stale, hstale, by simp [← hstack, pure, Except.pure, Forest.leaves]⟩
  | skip hline h ih =>
    obtain ⟨stale', hstale', hlines⟩ := ih hclean hnamed houter hstale hstack
    refine ⟨stale', hstale', ?_⟩
    rw [List.foldlM_cons, readLine_skipped hline]
    exact hlines
  | @scalar n key value rest lines indentation hindent h ih =>
    obtain ⟨hkey, hvalue, -, hrest⟩ := hclean
    obtain ⟨hne, hnamed⟩ := hnamed
    obtain ⟨stale', hstale', hlines⟩ := @ih hrest hnamed outer [] houter (by simp)
      { store reading (outer.map (·.2) ++ [key], .scalar value) with pathStack := outer }
      (List.append_nil outer).symm
    refine ⟨stale', hstale', ?_⟩
    rw [List.foldlM_cons, readLine_scalar hindent houter hstale hstack hkey hne hvalue,
      joinPath_leaf outer hne]
    refine hlines.trans ?_
    rw [foldl_store_stack]
    rfl
  | @list n deeper key items rest itemLines lines indentation hindent hdeeper hitems h ih =>
    obtain ⟨hkey, ⟨hsome, hitemsClean⟩, -, hrest⟩ := hclean
    obtain ⟨hne, hnamed⟩ := hnamed
    have hinner := @deeper_of_open outer n deeper key houter hdeeper
    obtain ⟨stale', hstale', hitemLines⟩ := @foldlM_items deeper items itemLines hitems hitemsClean
      (outer ++ [(n, key)]) [] hinner (by simp) (by simp)
      { reading with pathStack := outer ++ [(n, key)] } (List.append_nil _).symm
    obtain ⟨item, items, rfl⟩ := List.exists_cons_of_ne_nil hsome
    rw [List.foldl_cons, foldl_pushItems, List.map_append, List.append_assoc] at hitemLines
    obtain ⟨stale'', hstale'', hlines⟩ := @ih hrest hnamed outer ([(n, key)] ++ stale') houter
      (stale_of_closed hdeeper hstale')
      { store reading (outer.map (·.2) ++ [key], .list (item :: items)) with
        pathStack := outer ++ ([(n, key)] ++ stale') } rfl
    refine ⟨stale'', hstale'', ?_⟩
    rw [List.foldlM_cons, readLine_header hindent houter hstale hstack hkey hne]
    refine (List.foldlM_append.trans ?_)
    rw [hitemLines]
    refine hlines.trans ?_
    rw [foldl_store_stack]
    rfl
  | @mapping n deeper key children rest childLines lines indentation hindent hdeeper hchildren h
      ihChildren ih =>
    obtain ⟨hkey, hchildrenClean, -, hrest⟩ := hclean
    obtain ⟨hne, hchildrenNamed, hnamed⟩ := hnamed
    have hinner := @deeper_of_open outer n deeper key houter hdeeper
    obtain ⟨stale', hstale', hchildLines⟩ := @ihChildren hchildrenClean hchildrenNamed
      (outer ++ [(n, key)]) [] hinner (by simp)
      { reading with pathStack := outer ++ [(n, key)] } (List.append_nil _).symm
    rw [foldl_store_stack, List.map_append, List.append_assoc] at hchildLines
    obtain ⟨stale'', hstale'', hlines⟩ := @ih hrest hnamed outer ([(n, key)] ++ stale') houter
      (stale_of_closed hdeeper hstale')
      { (children.leaves (outer.map (·.2) ++ [key])).foldl store reading with
        pathStack := outer ++ ([(n, key)] ++ stale') } rfl
    refine ⟨stale'', hstale'', ?_⟩
    rw [List.foldlM_cons, readLine_header hindent houter hstale hstack hkey hne]
    refine (List.foldlM_append.trans ?_)
    rw [hchildLines]
    refine hlines.trans ?_
    rw [foldl_store_stack, Forest.leaves, List.foldl_append]

/-! ## The whole file -/

theorem leaves_path (forest : Forest) (above : List Bytes) :
    ∀ entry ∈ forest.leaves above, ∃ key ∈ forest.keys, ∃ below, entry.1 = above ++ key :: below := by
  induction forest generalizing above with
  | nil => simp [Forest.leaves]
  | leaf key content rest ih =>
    rw [Forest.leaves, List.forall_mem_cons]
    refine ⟨⟨key, List.mem_cons_self, [], rfl⟩, fun entry hentry => ?_⟩
    obtain ⟨other, hother, below, hpath⟩ := ih above entry hentry
    exact ⟨other, List.mem_cons_of_mem _ hother, below, hpath⟩
  | mapping key children rest ihChildren ih =>
    intro entry hentry
    rcases List.mem_append.mp hentry with hchild | hrest
    · obtain ⟨other, -, below, hpath⟩ := ihChildren (above ++ [key]) entry hchild
      exact ⟨key, List.mem_cons_self, other :: below, by rw [hpath, List.append_assoc]; rfl⟩
    · obtain ⟨other, hother, below, hpath⟩ := ih above entry hrest
      exact ⟨other, List.mem_cons_of_mem _ hother, below, hpath⟩

/-- The first key below tells the paths of one sibling from those of the others. -/
theorem path_ne_of_key {above below : List Bytes} {key : Bytes} {rest : Forest}
    (hkey : key ∉ rest.keys) {entry : List Bytes × Leaf} (hentry : entry ∈ rest.leaves above)
    (hpath : entry.1 = above ++ key :: below) : False := by
  obtain ⟨other, hother, below', hother'⟩ := leaves_path rest above entry hentry
  rw [hother'] at hpath
  have hsame := List.append_cancel_left hpath
  exact hkey ((List.cons.inj hsame).1 ▸ hother)

theorem leaves_nodup (h : forest.Clean) (above : List Bytes) :
    ((forest.leaves above).map (·.1)).Nodup := by
  induction forest generalizing above with
  | nil => exact List.nodup_nil
  | leaf key content rest ih =>
    obtain ⟨-, -, hkey, hrest⟩ := h
    rw [Forest.leaves, List.map_cons, List.nodup_cons]
    refine ⟨fun hmem => ?_, ih hrest above⟩
    obtain ⟨entry, hentry, hpath⟩ := List.mem_map.mp hmem
    exact @path_ne_of_key above [] key rest hkey entry hentry hpath
  | mapping key children rest ihChildren ih =>
    obtain ⟨-, hchildren, hkey, hrest⟩ := h
    rw [Forest.leaves, List.map_append, List.nodup_append]
    refine ⟨ihChildren hchildren _, ih hrest above, ?_⟩
    rintro path hpathChild other hother rfl
    obtain ⟨child, hchild, rfl⟩ := List.mem_map.mp hpathChild
    obtain ⟨entry, hentry, hpath⟩ := List.mem_map.mp hother
    obtain ⟨first, -, below, hbelow⟩ := leaves_path children (above ++ [key]) child hchild
    rw [hbelow, List.append_assoc] at hpath
    exact @path_ne_of_key above (first :: below) key rest hkey entry hentry hpath

theorem leaves_free (h : forest.Clean) {above : List Bytes}
    (habove : ∀ key ∈ above, (46 : Byte) ∉ key) :
    ∀ entry ∈ forest.leaves above, ∀ key ∈ entry.1, (46 : Byte) ∉ key := by
  have hsnoc : ∀ key, CleanKey key → ∀ other ∈ above ++ [key], (46 : Byte) ∉ other := by
    intro key hkey other hother
    rcases List.mem_append.mp hother with hold | hnew
    · exact habove other hold
    · rw [List.mem_singleton.mp hnew]
      exact fun hdot => (hkey.1 46 hdot).2.2.1 rfl
  induction forest generalizing above with
  | nil => simp [Forest.leaves]
  | leaf key content rest ih =>
    obtain ⟨hkey, -, -, hrest⟩ := h
    rw [Forest.leaves, List.forall_mem_cons]
    exact ⟨hsnoc key hkey, ih hrest habove hsnoc⟩
  | mapping key children rest ihChildren ih =>
    obtain ⟨hkey, hchildren, -, hrest⟩ := h
    intro entry hentry
    rcases List.mem_append.mp hentry with hchild | hrestEntry
    · refine ihChildren hchildren (hsnoc key hkey) ?_ entry hchild
      intro other hother last hlast
      rcases List.mem_append.mp hlast with hold | hnew
      · exact hsnoc key hkey last hold
      · rw [List.mem_singleton.mp hnew]
        exact fun hdot => (hother.1 46 hdot).2.2.1 rfl
    · exact ih hrest habove hsnoc entry hrestEntry

theorem dotted_nodup (h : forest.Clean) :
    ((forest.leaves []).map fun entry => dotted entry.1).Nodup := by
  have hmap : ((forest.leaves []).map fun entry => dotted entry.1) =
      ((forest.leaves []).map (·.1)).map dotted := by
    rw [List.map_map]
    rfl
  have hpath : ∀ path ∈ (forest.leaves []).map (·.1), path ≠ [] ∧ ∀ key ∈ path, (46 : Byte) ∉ key := by
    intro path hmem
    obtain ⟨entry, hentry, rfl⟩ := List.mem_map.mp hmem
    obtain ⟨key, -, below, hbelow⟩ := leaves_path forest [] entry hentry
    refine ⟨by simp [hbelow], leaves_free h (by simp) entry hentry⟩
  rw [hmap]
  refine List.Nodup.map_on ?_ (leaves_nodup h [])
  intro first hfirst second hsecond hsame
  exact Separated.join_injective 46 first second (hpath first hfirst).1 (hpath second hsecond).1
    (hpath first hfirst).2 (hpath second hsecond).2 hsame

/-- Where every path is stored at most once, what is found at a path is what was stored there. -/
theorem foldl_store_iff {α : Type} (values : Reading → Bytes → Option α) (content : Leaf → Option α)
    (hstore : ∀ reading entry, values reading (dotted entry.1) = none →
      values (store reading entry) = (content entry.2).elim (values reading)
        fun x => Function.update (values reading) (dotted entry.1) (some x))
    (entries : List (List Bytes × Leaf)) (reading : Reading)
    (hnodup : (entries.map fun entry => dotted entry.1).Nodup)
    (hnew : ∀ entry ∈ entries, values reading (dotted entry.1) = none) (path : Bytes) (x : α) :
    values (entries.foldl store reading) path = some x ↔
      values reading path = some x ∨
        ∃ entry ∈ entries, content entry.2 = some x ∧ path = dotted entry.1 := by
  induction entries generalizing reading with
  | nil => simp
  | cons entry entries ih =>
    obtain ⟨hentry, hentries⟩ := List.forall_mem_cons.mp hnew
    rw [List.map_cons, List.nodup_cons] at hnodup
    have hstored := hstore reading entry hentry
    have hother : ∀ later ∈ entries, dotted later.1 ≠ dotted entry.1 := by
      intro later hlater hsame
      exact hnodup.1 (List.mem_map.mpr ⟨later, hlater, hsame⟩)
    rw [List.foldl_cons, ih (store reading entry) hnodup.2 ?_, List.exists_mem_cons_iff, ← or_assoc]
    · refine or_congr ?_ Iff.rfl
      rw [hstored]
      cases hcontent : content entry.2 with
      | none => simp
      | some y =>
        rw [Option.elim_some, Option.some.injEq]
        by_cases hpath : path = dotted entry.1
        · rw [hpath, Function.update_self, hentry]
          simp
        · rw [Function.update_of_ne hpath]
          simp [hpath]
    · intro later hlater
      rw [hstored]
      cases content entry.2 with
      | none => exact hentries later hlater
      | some y =>
        rw [Option.elim_some, Function.update_of_ne (hother later hlater)]
        exact hentries later hlater

theorem getlines_unlines {lines : List Bytes} (h : ∀ line ∈ lines, 10 ∉ line) :
    KeyValue.getlines (unlines lines) = lines := by
  induction lines with
  | nil => rfl
  | cons line lines ih =>
    obtain ⟨hline, hlines⟩ := List.forall_mem_cons.mp h
    rw [unlines, List.flatMap_cons, List.append_assoc, List.singleton_append,
      KeyValue.getlines_append line _ fun b hb hbreak => hline (hbreak ▸ hb)]
    exact congrArg (line :: ·) (ih hlines)

theorem Indents.free {indentation : Bytes} (h : Indents n indentation) :
    (10 : Byte) ∉ indentation := by
  intro hbreak
  exact absurd (h.2 10 hbreak) (by decide)

theorem CleanKey.free {key : Bytes} (h : CleanKey key) : (10 : Byte) ∉ key := by
  intro hbreak
  exact absurd (h.1 10 hbreak).2.2.2 (by decide)

theorem rendersItems_free {items lines : List Bytes} (h : RendersItems n items lines)
    (hclean : ∀ item ∈ items, CleanScalar item) : ∀ line ∈ lines, (10 : Byte) ∉ line := by
  induction h with
  | nil => simp
  | skip hline h ih => exact List.forall_mem_cons.mpr ⟨hline.1, ih hclean⟩
  | item hindent h ih =>
    obtain ⟨hitem, hrest⟩ := List.forall_mem_cons.mp hclean
    refine List.forall_mem_cons.mpr ⟨?_, ih hrest⟩
    simpa [hindent.free] using fun hbreak => (hitem.free 10 hbreak).2 rfl

theorem renders_free {lines : List Bytes} (h : Renders n forest lines)
    (hclean : forest.Clean) : ∀ line ∈ lines, (10 : Byte) ∉ line := by
  induction h with
  | nil => simp
  | skip hline h ih => exact List.forall_mem_cons.mpr ⟨hline.1, ih hclean⟩
  | scalar hindent h ih =>
    obtain ⟨hkey, hvalue, -, hrest⟩ := hclean
    refine List.forall_mem_cons.mpr ⟨?_, ih hrest⟩
    simpa [hindent.free, hkey.free] using fun hbreak => (hvalue.free 10 hbreak).2 rfl
  | list hindent hdeeper hitems h ih =>
    obtain ⟨hkey, ⟨-, hitemsClean⟩, -, hrest⟩ := hclean
    refine List.forall_mem_cons.mpr ⟨by simp [hindent.free, hkey.free], ?_⟩
    exact List.forall_mem_append.mpr ⟨rendersItems_free hitems hitemsClean, ih hrest⟩
  | mapping hindent hdeeper hchildren h ihChildren ih =>
    obtain ⟨hkey, hchildrenClean, -, hrest⟩ := hclean
    refine List.forall_mem_cons.mpr ⟨by simp [hindent.free, hkey.free], ?_⟩
    exact List.forall_mem_append.mpr ⟨ihChildren hchildrenClean, ih hrest⟩

def Leaf.scalarValue : Leaf → Option Bytes
  | .scalar value => some value
  | .list _ => none

def Leaf.listItems : Leaf → Option (List Bytes)
  | .scalar _ => none
  | .list items => some items

theorem Leaf.scalarValue_eq_some {content : Leaf} {value : Bytes} :
    content.scalarValue = some value ↔ content = .scalar value := by
  cases content with
  | scalar other => simp [Leaf.scalarValue]
  | list items => simp [Leaf.scalarValue]

theorem Leaf.listItems_eq_some {content : Leaf} {items : List Bytes} :
    content.listItems = some items ↔ content = .list items := by
  cases content with
  | scalar value => simp [Leaf.listItems]
  | list other => simp [Leaf.listItems]

theorem store_scalarValues (reading : Reading) (entry : List Bytes × Leaf) :
    (store reading entry).scalarValues = entry.2.scalarValue.elim reading.scalarValues
      fun value => Function.update reading.scalarValues (dotted entry.1) (some value) := by
  obtain ⟨keys, content⟩ := entry
  cases content with
  | scalar value => rfl
  | list items => rfl

theorem store_listValues (reading : Reading) (entry : List Bytes × Leaf)
    (hnew : reading.listValues (dotted entry.1) = none) :
    (store reading entry).listValues = entry.2.listItems.elim reading.listValues
      fun items => Function.update reading.listValues (dotted entry.1) (some items) := by
  obtain ⟨keys, content⟩ := entry
  cases content with
  | scalar value => rfl
  | list items =>
    simp only [store, pushItems, hnew]
    rfl

/-- A tree that is written in block style is read back, with blank lines and comments anywhere. -/
theorem renders_readBack {n : Nat} {forest : Forest} {lines : List Bytes} (hclean : forest.Clean)
    (hnamed : forest.Named) (h : Renders n forest lines) :
    ReadBack forest (parseProfileYamlFile (some (unlines lines))) := by
  obtain ⟨stale, -, hlines⟩ := @foldlM_renders n forest lines h hclean hnamed [] [] (by simp)
    (by simp) {} rfl
  have hparsed : parseProfileYamlFile (some (unlines lines)) =
      { scalarValues := ((forest.leaves []).foldl store {}).scalarValues
        listValues := ((forest.leaves []).foldl store {}).listValues
        ok := true } := by
    unfold parseProfileYamlFile
    simp only [getlines_unlines (renders_free h hclean), hlines, List.map_nil]
  have hnodup := dotted_nodup hclean
  rw [hparsed]
  refine ⟨rfl, fun path value => ?_, fun path items => ?_⟩
  · rw [foldl_store_iff (·.scalarValues) Leaf.scalarValue
      (fun reading entry _ => store_scalarValues reading entry) _ {} hnodup (fun _ _ => rfl)]
    simp [Leaf.scalarValue_eq_some]
  · rw [foldl_store_iff (·.listValues) Leaf.listItems store_listValues _ {} hnodup (fun _ _ => rfl)]
    simp [Leaf.listItems_eq_some]

theorem indents_none : Indents 0 [] := ⟨rfl, by simp⟩

theorem indents_two : Indents 2 (str "  ") := ⟨rfl, by decide⟩

/-- One scalar and one list below a key, with a comment between them. -/
def smallForest : Forest :=
  .mapping (str "a") (.leaf (str "b") (.scalar (str "1")) (.leaf (str "c") (.list [str "x"]) .nil))
    .nil

theorem smallForest_readBack :
    ReadBack smallForest
      (parseProfileYamlFile (some (unlines
        [str "a:", str "  b: 1", str "# c", str "  c:", str "    - x"]))) := by
  have hone : CleanScalar (str "1") := ⟨by decide, by decide, by decide +kernel, by decide +kernel⟩
  have hitem : CleanScalar (str "x") := ⟨by decide, by decide, by decide +kernel, by decide +kernel⟩
  have hchildren : Renders 2
      (.leaf (str "b") (.scalar (str "1")) (.leaf (str "c") (.list [str "x"]) .nil))
      [str "  b: 1", str "# c", str "  c:", str "    - x"] := by
    have hdeep : Indents 4 (str "    ") := ⟨rfl, by decide⟩
    refine .scalar indents_two (.skip ?_ ?_)
    · exact ⟨by decide, [], by simp, .inr ⟨str " c", rfl⟩⟩
    · exact .list indents_two (by decide : 2 < 4) (.item hdeep .nil) .nil
  have hlist : ∀ item ∈ [str "x"], CleanScalar item := by
    intro item hmem
    rw [List.mem_singleton.mp hmem]
    exact hitem
  refine renders_readBack (n := 0) ?_ ?_
    (.mapping indents_none (by decide : 0 < 2) hchildren .nil)
  · exact ⟨⟨by decide, by decide⟩, ⟨⟨by decide, by decide⟩, hone, by decide,
      ⟨by decide, by decide⟩, ⟨by decide, hlist⟩, by decide, trivial⟩, by decide, trivial⟩
  · exact ⟨by decide, ⟨by decide, by decide, trivial⟩, trivial⟩

/-- A scalar under an empty key is found at the path of the key above it. -/
theorem emptyKey_not_readBack :
    (Forest.mapping (str "a") (.leaf [] (.scalar (str "1")) .nil) .nil).Clean ∧
      Renders 0 (.mapping (str "a") (.leaf [] (.scalar (str "1")) .nil) .nil)
        [str "a:", str "  : 1"] ∧
      ¬ ReadBack (.mapping (str "a") (.leaf [] (.scalar (str "1")) .nil) .nil)
        (parseProfileYamlFile (some (unlines [str "a:", str "  : 1"]))) := by
  refine ⟨?_, ?_, fun h => ?_⟩
  · exact ⟨⟨by decide, by decide⟩, ⟨⟨by decide, by decide⟩,
      ⟨by decide, by decide, by decide +kernel, by decide +kernel⟩, by decide, trivial⟩, by decide, trivial⟩
  · exact .mapping indents_none (by decide : 0 < 2) (.scalar indents_two .nil) .nil
  · have hfound := (h.scalars (dotted [str "a", []]) (str "1")).mpr
      ⟨_, List.mem_singleton.mpr rfl, rfl⟩
    exact absurd hfound (by decide +kernel)

end Dasall.Profiles.Yaml
