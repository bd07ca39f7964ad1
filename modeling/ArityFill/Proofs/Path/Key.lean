import ArityFill.Path.Key
import ArityFill.Proofs.Text.Segment
import Mathlib.Data.List.Induction

/-! # What the keys of paths are

    A key is made by cutting text, by base name, or by walking from component to component, by
    path. Two facts about keys carry the lookups in an index:

    - A key is its own key (`key_key`). By path this needs a current directory that can be read back
      from its text: the walk never leaves locations of `Plain` components, and the text of such a
      location leads there again.
    - A path that ends in a name is matched by that name (`EndsIn.key_basename`), and where the path
      leads ends in the same name (`EndsIn.key_path`).
-/

namespace ArityFill.Path

/-! ## Base names -/

/-- The base name of a text whose first line is known. -/
theorem basename_append {line rest : List Char} (hline : '\n' ∉ line)
    (hrest : ∀ c ∈ rest.head?, c = '\n') :
    basename (line ++ rest) = Text.afterLast isSeparator line ++ rest := by
  have hpass : ∀ c ∈ line, decide (c ≠ '\n') = true := by
    intro c hc
    rw [decide_eq_true_iff]
    rintro rfl
    exact hline hc
  have hstop : ∀ c ∈ rest.head?, decide (c ≠ '\n') = false := by
    intro c hc
    simp [hrest c hc]
  have hfirst := Text.takeWhile_append_of_head hpass hstop
  simp only [basename, hfirst, List.drop_left]

/-- On one line the base name is what follows the last separator. -/
theorem basename_of_notMem {cs : List Char} (h : '\n' ∉ cs) :
    basename cs = Text.afterLast isSeparator cs := by
  have hbase := @basename_append cs [] h (by simp)
  rwa [List.append_nil, List.append_nil] at hbase

/-- A text is its first line and what the first line break begins. -/
theorem exists_firstLine (cs : List Char) :
    ∃ line rest, cs = line ++ rest ∧ '\n' ∉ line ∧ ∀ c ∈ rest.head?, c = '\n' := by
  refine ⟨cs.takeWhile fun c => c ≠ '\n', cs.dropWhile fun c => c ≠ '\n',
    List.takeWhile_append_dropWhile.symm, ?_, ?_⟩
  · intro hmem
    simpa using List.mem_takeWhile_imp hmem
  · intro c hc
    have hhead := List.head?_dropWhile_not (fun c => decide (c ≠ '\n')) cs
    rw [Option.mem_def.mp hc] at hhead
    simpa using hhead

/-- Stripping directories again strips nothing: the first line has no separator left, and the other
    lines are not looked at. -/
theorem basename_basename (cs : List Char) : basename (basename cs) = basename cs := by
  obtain ⟨line, rest, rfl, hline, hrest⟩ := exists_firstLine cs
  obtain ⟨before, hbefore, _, hrun⟩ := Text.lastRun_afterLast isSeparator line
  have hname : '\n' ∉ Text.afterLast isSeparator line := by
    intro hmem
    apply hline
    rw [hbefore]
    exact List.mem_append_right _ hmem
  rw [basename_append hline hrest, basename_append hname hrest,
    (Text.lastRun_self hrun).afterLast_eq]

/-! ## Locations and their texts -/

/-- A component that can be read back from the text of a location. -/
structure Plain (part : String) : Prop where
  /-- It is there. -/
  notEmpty : part ≠ ""
  /-- It does not stay. -/
  notHere : part ≠ "."
  /-- It does not lead up. -/
  notUp : part ≠ ".."
  /-- It is one component, also if backslashes count as slashes. -/
  whole : ∀ c ∈ part.toList, isSeparator c = false
  /-- It can be on disk. -/
  noNull : hasNull part = false

instance (part : String) : Decidable (Plain part) :=
  decidable_of_iff
    (part ≠ "" ∧ part ≠ "." ∧ part ≠ ".." ∧ part.toList.any isSeparator = false ∧
      hasNull part = false)
    ⟨fun ⟨h₁, h₂, h₃, h₄, h₅⟩ => ⟨h₁, h₂, h₃, by simpa using h₄, h₅⟩,
      fun ⟨h₁, h₂, h₃, h₄, h₅⟩ => ⟨h₁, h₂, h₃, by simpa using h₄, h₅⟩⟩

theorem isSeparator_eq_false_iff {c : Char} : isSeparator c = false ↔ c ≠ '/' ∧ c ≠ '\\' := by
  simp [isSeparator]

theorem hasNull_eq_false_iff {s : String} : hasNull s = false ↔ '\x00' ∉ s.toList := by
  simp [hasNull]

/-- Some components, each behind a slash. -/
def slashed (loc : Location) : List Char :=
  loc.flatMap fun part => '/' :: part.toList

theorem slashed_concat (loc : Location) (part : String) :
    slashed (loc ++ [part]) = slashed loc ++ '/' :: part.toList := by
  simp [slashed]

/-- The text of a location that is not the root. -/
theorem toList_locationText {loc : Location} (h : loc ≠ []) :
    (locationText loc).toList = slashed loc := by
  induction loc using List.reverseRecOn with
  | nil => exact absurd rfl h
  | append_singleton loc part ih =>
    rw [slashed_concat]
    by_cases hloc : loc = []
    · subst hloc
      simp [locationText, slashed]
    · rw [← ih hloc]
      simp [locationText, String.intercalate_append_of_ne_nil hloc]

/-- What the text of a location consists of. -/
theorem mem_toList_locationText {loc : Location} {c : Char} (h : c ∈ (locationText loc).toList) :
    c = '/' ∨ ∃ part ∈ loc, c ∈ part.toList := by
  by_cases hloc : loc = []
  · subst hloc
    exact .inl (List.mem_singleton.mp h)
  · rw [toList_locationText hloc, slashed, List.mem_flatMap] at h
    obtain ⟨part, hpart, hc⟩ := h
    rw [List.mem_cons] at hc
    exact hc.imp_right fun hmem => ⟨part, hpart, hmem⟩

theorem pieces_slashed {loc : Location} (h : ∀ part ∈ loc, '/' ∉ part.toList) :
    Text.pieces '/' (slashed loc) = [] :: loc.map String.toList := by
  induction loc using List.reverseRecOn with
  | nil => rfl
  | append_singleton loc part ih =>
    have hpart : '/' ∉ part.toList := h part (by simp)
    rw [slashed_concat, Text.pieces_append_cons, Text.pieces_of_notMem hpart,
      ih fun q hq => h q (List.mem_append_left _ hq), List.map_append]
    rfl

/-- The last pieces of a path are its last components, if none of them is dropped. -/
theorem partsOf_of_pieces {cs : List Char} {ps : List (List Char)} {parts : List String}
    (hpieces : Text.pieces '/' cs = ps ++ parts.map String.toList)
    (hparts : ∀ part ∈ parts, part ≠ "" ∧ part ≠ ".") :
    partsOf cs = (ps.filter fun p => p ≠ [] ∧ p ≠ ['.']).map String.ofList ++ parts := by
  have hkept : ∀ p ∈ parts.map String.toList, decide (p ≠ [] ∧ p ≠ ['.']) = true := by
    intro p hp
    obtain ⟨part, hpart, rfl⟩ := List.mem_map.mp hp
    rw [decide_eq_true_iff]
    constructor
    · intro hnil
      exact (hparts part hpart).1 (String.toList_eq_nil_iff.mp hnil)
    · intro hdot
      exact (hparts part hpart).2 (String.toList_inj.mp hdot)
  have hback : (parts.map String.toList).map String.ofList = parts := by
    rw [List.map_map]
    exact (List.map_congr_left fun part _ => String.ofList_toList).trans (List.map_id parts)
  rw [partsOf, hpieces, List.filter_append, List.filter_eq_self.mpr hkept, List.map_append, hback]

section
variable {loc : Location} (hplain : ∀ part ∈ loc, Plain part)
include hplain

/-- The components of a location are read back from its text. -/
theorem partsOf_locationText : partsOf (locationText loc).toList = loc := by
  by_cases hloc : loc = []
  · subst hloc
    rfl
  · have hslash : ∀ part ∈ loc, '/' ∉ part.toList := by
      intro part hpart hmem
      exact (isSeparator_eq_false_iff.mp ((hplain part hpart).whole _ hmem)).1 rfl
    rw [toList_locationText hloc]
    exact @partsOf_of_pieces _ [[]] loc (pieces_slashed hslash) fun part hpart =>
      ⟨(hplain part hpart).notEmpty, (hplain part hpart).notHere⟩

/-- The text of a location begins with a single slash. -/
theorem anchorOf_locationText : anchorOf (locationText loc).toList = .root := by
  cases loc with
  | nil => rfl
  | cons part loc =>
    have hpart := hplain part List.mem_cons_self
    cases hcs : part.toList with
    | nil => exact absurd (String.toList_eq_nil_iff.mp hcs) hpart.notEmpty
    | cons c cs =>
      have hc : c ≠ '/' := (isSeparator_eq_false_iff.mp (hpart.whole c (by simp [hcs]))).1
      rw [toList_locationText (List.cons_ne_nil _ _), slashed, List.flatMap_cons, hcs]
      simp [anchorOf, hc]

theorem forward_locationText : forward (locationText loc) = locationText loc := by
  have hkept : ∀ c ∈ (locationText loc).toList, (if c = '\\' then '/' else c) = c := by
    intro c hc
    rw [if_neg]
    rintro rfl
    obtain hslash | ⟨part, hpart, hmem⟩ := mem_toList_locationText hc
    · exact absurd hslash (by decide)
    · exact (isSeparator_eq_false_iff.mp ((hplain part hpart).whole _ hmem)).2 rfl
  rw [forward, List.map_congr_left hkept, List.map_id', String.ofList_toList]

theorem hasNull_locationText : hasNull (locationText loc) = false := by
  rw [hasNull_eq_false_iff]
  intro hmem
  obtain hslash | ⟨part, hpart, hnull⟩ := mem_toList_locationText hmem
  · exact absurd hslash (by decide)
  · exact hasNull_eq_false_iff.mp (hplain part hpart).noNull hnull

end

/-! ## Walks -/

/-- One step from a location of plain components. -/
theorem plain_enter {loc : Location} {part : String} (hloc : ∀ q ∈ loc, Plain q)
    (hpart : part = ".." ∨ Plain part) : ∀ q ∈ enter loc part, Plain q := by
  intro q hq
  by_cases hup : part = ".."
  · rw [enter, if_pos hup] at hq
    exact hloc q (List.dropLast_subset loc hq)
  · rw [enter, if_neg hup, List.mem_append, List.mem_singleton] at hq
    obtain hq | rfl := hq
    · exact hloc q hq
    · exact hpart.resolve_left hup

/-- A walk of plain components and double dots ends where all components are plain. -/
theorem plain_foldl_enter {parts : List String} (hparts : ∀ q ∈ parts, q = ".." ∨ Plain q)
    {loc : Location} (hloc : ∀ q ∈ loc, Plain q) : ∀ q ∈ parts.foldl enter loc, Plain q := by
  induction parts generalizing loc with
  | nil => exact hloc
  | cons part parts ih =>
    rw [List.forall_mem_cons] at hparts
    exact ih hparts.2 (plain_enter hloc hparts.1)

/-- A walk without double dots only goes down. -/
theorem foldl_enter_of_notMem {parts : List String} (h : ".." ∉ parts) (loc : Location) :
    parts.foldl enter loc = loc ++ parts := by
  induction parts generalizing loc with
  | nil => rw [List.foldl_nil, List.append_nil]
  | cons part parts ih =>
    rw [List.mem_cons, not_or] at h
    rw [List.foldl_cons, enter, if_neg (Ne.symm h.1), ih h.2, List.append_assoc,
      List.singleton_append]

theorem mem_toList_forward {p : String} {c : Char} (h : c ∈ (forward p).toList) :
    c ≠ '\\' ∧ (c = '/' ∨ c ∈ p.toList) := by
  rw [forward, String.toList_ofList, List.mem_map] at h
  obtain ⟨d, hd, rfl⟩ := h
  by_cases hback : d = '\\'
  · simp [hback]
  · simp [hback, hd]

/-- What a path is made of once its backslashes are slashes. -/
theorem plain_of_mem_partsOf {p part : String} (hnull : hasNull p = false)
    (h : part ∈ partsOf (forward p).toList) : part = ".." ∨ Plain part := by
  by_cases hup : part = ".."
  · exact .inl hup
  · rw [partsOf, List.mem_map] at h
    obtain ⟨cs, hcs, rfl⟩ := h
    rw [List.mem_filter, decide_eq_true_iff] at hcs
    obtain ⟨hpiece, hne, hdot⟩ := hcs
    have hchars := Text.mem_of_mem_pieces hpiece
    refine .inr ⟨?_, ?_, hup, ?_, ?_⟩
    · rwa [Ne, String.ofList_eq_empty_iff]
    · intro h
      exact hdot (by simpa using congrArg String.toList h)
    · rw [String.toList_ofList]
      intro c hc
      exact isSeparator_eq_false_iff.mpr
        ⟨(hchars c hc).2, (mem_toList_forward (hchars c hc).1).1⟩
    · rw [hasNull_eq_false_iff, String.toList_ofList]
      intro hmem
      obtain hslash | hmem := (mem_toList_forward (hchars _ hmem).1).2
      · exact absurd hslash (by decide)
      · exact hasNull_eq_false_iff.mp hnull hmem

theorem plain_resolve {cwd : Location} {p : String} (hcwd : ∀ part ∈ cwd, Plain part)
    (hnull : hasNull p = false) : ∀ part ∈ resolve cwd (ofString (forward p)), Plain part := by
  apply plain_foldl_enter
  · intro part hpart
    exact plain_of_mem_partsOf hnull hpart
  · split
    · exact hcwd
    · exact List.forall_mem_nil _

/-! ## Keys of keys -/

/-- The text of a location of plain components leads there, from wherever it is read. -/
theorem key_locationText (cwd : Location) {loc : Location} (hplain : ∀ part ∈ loc, Plain part) :
    key cwd .path (locationText loc) = .ok (locationText loc) := by
  have hup : ".." ∉ loc := fun hmem => (hplain ".." hmem).notUp rfl
  have hresolve : resolve cwd (ofString (locationText loc)) = loc := by
    simp only [resolve, ofString, anchorOf_locationText hplain, partsOf_locationText hplain]
    exact foldl_enter_of_notMem hup []
  simp [key, hasNull_locationText hplain, forward_locationText hplain, hresolve]

/-- A key is its own key. -/
theorem key_key {cwd : Location} {m : Matching} (hcwd : m = .path → ∀ part ∈ cwd, Plain part)
    {p k : String} (h : key cwd m p = .ok k) : key cwd m k = .ok k := by
  cases m with
  | basename =>
    cases h
    simp [key, basename_basename]
  | path =>
    rw [key] at h
    split at h
    · cases h
    · next hnull =>
      cases h
      apply key_locationText
      exact plain_resolve (hcwd rfl) (Bool.eq_false_iff.mpr hnull)

/-! ## Paths that end in a name -/

/-- A path on one line, without U+0000, that ends in a name: `name` stands behind its last
    separator, and is neither empty nor a single or double dot. -/
structure EndsIn (p name : String) : Prop where
  /-- There is no line break. -/
  oneLine : '\n' ∉ p.toList
  /-- It can be on disk. -/
  noNull : hasNull p = false
  /-- The name is what follows the last separator. -/
  last : Text.LastRun isSeparator p.toList name.toList
  /-- The path does not end in a separator. -/
  notEmpty : name ≠ ""
  /-- The path does not end in a single dot. -/
  notHere : name ≠ "."
  /-- The path does not end in a double dot. -/
  notUp : name ≠ ".."

instance (p name : String) : Decidable (EndsIn p name) :=
  decidable_of_iff
    ('\n' ∉ p.toList ∧ hasNull p = false ∧ Text.LastRun isSeparator p.toList name.toList ∧
      name ≠ "" ∧ name ≠ "." ∧ name ≠ "..")
    ⟨fun ⟨h₁, h₂, h₃, h₄, h₅, h₆⟩ => ⟨h₁, h₂, h₃, h₄, h₅, h₆⟩,
      fun ⟨h₁, h₂, h₃, h₄, h₅, h₆⟩ => ⟨h₁, h₂, h₃, h₄, h₅, h₆⟩⟩

/-- A name behind the last slash is the last component. -/
theorem partsOf_of_lastRun {cs : List Char} {name : String}
    (h : Text.LastRun (fun c => c = '/') cs name.toList) (hne : name ≠ "") (hdot : name ≠ ".") :
    ∃ parts, partsOf cs = parts ++ [name] := by
  obtain ⟨ps, hps⟩ := h.pieces_eq
  exact ⟨_, @partsOf_of_pieces cs ps [name] hps (List.forall_mem_singleton.mpr ⟨hne, hdot⟩)⟩

theorem name_of_lastRun {p name : String}
    (h : Text.LastRun (fun c => c = '/') p.toList name.toList) (hne : name ≠ "")
    (hdot : name ≠ ".") : (ofString p).name = name := by
  obtain ⟨parts, hparts⟩ := partsOf_of_lastRun h hne hdot
  simp [Path.name, ofString, hparts]

/-- Turning backslashes into slashes keeps what follows the last separator. -/
theorem lastRun_forward {p name : String} (h : Text.LastRun isSeparator p.toList name.toList) :
    Text.LastRun (fun c => c = '/') (forward p).toList name.toList := by
  obtain ⟨before, hsplit, hbefore, hname⟩ := h
  have hkept : ∀ c ∈ name.toList, (if c = '\\' then '/' else c) = c := fun c hc =>
    if_neg (isSeparator_eq_false_iff.mp (hname c hc)).2
  refine ⟨before.map fun c => if c = '\\' then '/' else c, ?_, ?_, ?_⟩
  · rw [forward, String.toList_ofList, hsplit, List.map_append, List.map_congr_left hkept,
      List.map_id']
  · intro c hc
    rw [List.getLast?_map, Option.mem_def, Option.map_eq_some_iff] at hc
    obtain ⟨d, hd, rfl⟩ := hc
    have hsep : d = '/' ∨ d = '\\' := by simpa [isSeparator] using hbefore d hd
    obtain rfl | rfl := hsep <;> rfl
  · intro c hc
    exact decide_eq_false (isSeparator_eq_false_iff.mp (hname c hc)).1

namespace EndsIn
variable {p name : String} (h : EndsIn p name)
include h

theorem key_basename (cwd : Location) : key cwd .basename p = .ok name := by
  rw [key, basename_of_notMem h.oneLine, h.last.afterLast_eq, String.ofList_toList]

/-- The last component, which says whether a file is a declaration file. -/
theorem name_forward : (ofString (forward p)).name = name :=
  name_of_lastRun (lastRun_forward h.last) h.notEmpty h.notHere

/-- Wherever the components before it lead, the walk ends by entering the name. -/
theorem key_path (cwd : Location) :
    ∃ folder, key cwd .path p = .ok (locationText (folder ++ [name])) := by
  obtain ⟨parts, hparts⟩ := partsOf_of_lastRun (lastRun_forward h.last) h.notEmpty h.notHere
  refine ⟨parts.foldl enter (if (ofString (forward p)).anchor = .here then cwd else []), ?_⟩
  rw [key, if_neg (by simp [h.noNull]), resolve]
  simp only [ofString, hparts, List.foldl_append, List.foldl_cons, List.foldl_nil]
  rw [enter, if_neg h.notUp]

/-- What the key by path ends in. -/
theorem lastRun_locationText (folder : Location) :
    Text.LastRun isSeparator (locationText (folder ++ [name])).toList name.toList ∧
    (ofString (locationText (folder ++ [name]))).name = name := by
  obtain ⟨_, _, _, hname⟩ := h.last
  have hsplit : (locationText (folder ++ [name])).toList =
      (slashed folder ++ ['/']) ++ name.toList := by
    rw [toList_locationText (by simp), slashed_concat, List.append_assoc, List.singleton_append]
  constructor
  · refine ⟨_, hsplit, ?_, hname⟩
    simp [isSeparator]
  · refine name_of_lastRun ⟨_, hsplit, by simp, ?_⟩ h.notEmpty h.notHere
    intro c hc
    exact decide_eq_false (isSeparator_eq_false_iff.mp (hname c hc)).1

end EndsIn

/-- Paths that end in names and lead to one place end in one name. -/
theorem EndsIn.name_eq {p q name name' key : String} {cwd : Location} (hp : EndsIn p name)
    (hq : EndsIn q name') (hpkey : Path.key cwd .path p = .ok key)
    (hqkey : Path.key cwd .path q = .ok key) : name = name' := by
  obtain ⟨folder, hfolder⟩ := hp.key_path cwd
  obtain ⟨folder', hfolder'⟩ := hq.key_path cwd
  rw [hpkey, Except.ok.injEq] at hfolder
  rw [hqkey, Except.ok.injEq] at hfolder'
  calc
    name = (ofString key).name := by rw [hfolder, (hp.lastRun_locationText folder).2]
    _ = name' := by rw [hfolder', (hq.lastRun_locationText folder').2]

end ArityFill.Path
