import ArityFill.Proofs.Batch.Independent
import Mathlib.Data.List.Forall2
import Mathlib.Data.List.Lex
import Mathlib.Data.List.Nodup
import Mathlib.Data.List.Sort
import Mathlib.Data.String.Basic

/-! # What each path contributes to a search

    A search takes its paths in their order, and what a path contributes does not depend on the
    others (`Contributes`): a file contributes itself, a path where nothing is contributes a
    warning, and a folder contributes its source files (`SourceBelow`), each of them once and in the
    order of their components.

    The exception is a path that is too long to be looked up, which ends the search.
    `MeetsLongPath` says for which paths that happens, and `collect_of_meetsLongPath` what has been
    found until then.
-/

namespace ArityFill

namespace Store

/-- A store with one entry at most at every location, as on any disk. -/
structure Unambiguous (s : Store) : Prop where
  /-- No two files are at one location. -/
  distinct : (s.files.map Prod.fst).Nodup
  /-- Nothing is both a file and a folder. -/
  apart : ∀ loc ∈ s.folders, loc ∉ s.files.map Prod.fst

instance (s : Store) : Decidable s.Unambiguous :=
  decidable_of_iff
    ((s.files.map Prod.fst).Nodup ∧
      (s.folders.any fun loc => (s.files.map Prod.fst).contains loc) = false)
    ⟨fun ⟨hdistinct, hapart⟩ => ⟨hdistinct, fun loc hloc hfile =>
        List.any_eq_false.mp hapart loc hloc (List.contains_iff_mem.mpr hfile)⟩,
      fun h => ⟨h.distinct, List.any_eq_false.mpr fun loc hloc hfile =>
        h.apart loc hloc (List.contains_iff_mem.mp hfile)⟩⟩

section
variable {s : Store} (hs : s.Unambiguous) {loc : Location}
include hs

theorem Unambiguous.get?_eq_folder_iff (hne : loc ≠ []) :
    s.get? loc = some .folder ↔ loc ∈ s.folders := by
  unfold get?
  cases hlookup : s.files.lookup loc with
  | some content =>
    -- A file is there, and so no folder is.
    have hsome := isSome_lookup_eq s loc
    rw [hlookup] at hsome
    have hfile : loc ∈ s.files.map Prod.fst := of_decide_eq_true hsome.symm
    have hnot : loc ∉ s.folders := fun hmem => hs.apart loc hmem hfile
    simp [hnot]
  | none => simp [hne]

theorem Unambiguous.mem_foldersBelow_iff {below : List String} :
    below ∈ s.foldersBelow loc ↔ below ≠ [] ∧ s.get? (loc ++ below) = some .folder := by
  rw [foldersBelow, List.mem_filterMap]
  constructor
  · intro h
    obtain ⟨l, hl, hbelow⟩ := h
    obtain ⟨hne, hloc⟩ := below?_eq_some_iff.mp hbelow
    rw [hloc] at hl
    exact ⟨hne, (hs.get?_eq_folder_iff (by simp [hne])).mpr hl⟩
  · intro h
    obtain ⟨hne, hget⟩ := h
    exact ⟨loc ++ below, (hs.get?_eq_folder_iff (by simp [hne])).mp hget,
      below?_eq_some_iff.mpr ⟨hne, rfl⟩⟩

/-- No file is listed twice below a location. -/
theorem Unambiguous.nodup_filesBelow : (s.filesBelow loc).Nodup := by
  rw [filesBelow_eq_filterMap]
  refine hs.distinct.filterMap ?_
  intro l l' below hl hl'
  rw [(below?_eq_some_iff.mp hl).2, (below?_eq_some_iff.mp hl').2]

end

end Store

namespace Batch

/-! ## The order of components -/

/-- The order of components is the lexicographic one. -/
theorem componentsLE_iff {as bs : List String} : componentsLE as bs = true ↔ ¬ bs < as := by
  induction as generalizing bs with
  | nil => simp [componentsLE]
  | cons a as ih =>
    cases bs with
    | nil => simp [componentsLE]
    | cons b bs =>
      rw [componentsLE, List.cons_lt_cons_iff]
      by_cases hab : a = b
      · simp [hab, ih]
      · have hba : b ≠ a := Ne.symm hab
        rw [if_neg hab, decide_eq_true_iff]
        constructor
        · intro hlt
          simp [hba, lt_asymm hlt]
        · intro hnot
          rcases lt_trichotomy a b with hlt | hsame | hgt
          · exact hlt
          · exact absurd hsame hab
          · exact absurd (Or.inl hgt) hnot

/-- Different lists of components are sorted strictly. -/
theorem mergeSort_componentsLE_pairwise {xs : List (List String)} (h : xs.Nodup) :
    (xs.mergeSort componentsLE).Pairwise (· < ·) := by
  have hsorted : (xs.mergeSort componentsLE).Pairwise fun as bs => componentsLE as bs = true := by
    apply List.pairwise_mergeSort
    · intro as bs cs hab hbc
      rw [componentsLE_iff, not_lt] at hab hbc ⊢
      exact le_trans hab hbc
    · intro as bs
      rw [Bool.or_eq_true, componentsLE_iff, componentsLE_iff, not_lt, not_lt]
      exact le_total as bs
  have hnodup : (xs.mergeSort componentsLE).Nodup :=
    (List.mergeSort_perm xs componentsLE).nodup_iff.mpr h
  refine (hsorted.and hnodup).imp ?_
  intro as bs hpair
  exact lt_of_le_of_ne (not_lt.mp (componentsLE_iff.mp hpair.1)) hpair.2

/-! ## Folders -/

theorem filterMap_file?_map_file (files : List Path) :
    (files.map Found.file).filterMap Found.file? = files := by
  rw [List.filterMap_map]
  exact List.filterMap_some

theorem filterMap_event?_map_file (files : List Path) :
    (files.map Found.file).filterMap Found.event? = [] := by
  rw [List.filterMap_map]
  exact List.filterMap_eq_nil_iff.mpr fun q _ => rfl

/-- Whether a path is that of a source file below a folder: it leads on from the folder to a file,
    by components none of which is ignored, and the extension of the file is that of a grammar. -/
def SourceBelow (store : Store) (ignored : List String) (loc : Location) (p q : Path) : Prop :=
  ∃ below content, below ≠ [] ∧ q = p.join below ∧
    store.get? (loc ++ below) = some (.file content) ∧ (∀ part ∈ below, part ∉ ignored) ∧
    ∃ g, Grammar.extensions.lookup (Grammar.lower q.suffix) = some g

section
variable {store : Store} {ignored : List String} {loc : Location} {p q : Path}

/-- A source file has a grammar without a language being given. -/
theorem SourceBelow.resolve (h : SourceBelow store ignored loc p q) :
    ∃ g, Grammar.resolve none (some q) = .ok g := by
  obtain ⟨_, _, _, _, _, _, g, hg⟩ := h
  have hextension : Grammar.ofExtension? q.suffix = some g := hg
  refine ⟨g, ?_⟩
  show Grammar.ofPath q = .ok g
  unfold Grammar.ofPath
  rw [hextension]

theorem mem_filter_candidates_iff :
    q ∈ (candidates store ignored loc p).filter Grammar.supports ↔
      SourceBelow store ignored loc p q := by
  rw [List.mem_filter, mem_candidates_iff, Grammar.supports, Option.isSome_iff_exists]
  constructor
  · intro h
    obtain ⟨⟨below, hbelow, hclear, hq⟩, hgrammar⟩ := h
    obtain ⟨hne, content, hget⟩ := Store.mem_filesBelow_iff.mp hbelow
    exact ⟨below, content, hne, hq, hget, hclear, hgrammar⟩
  · intro h
    obtain ⟨below, content, hne, hq, hget, hclear, hgrammar⟩ := h
    exact ⟨⟨below, Store.mem_filesBelow_iff.mpr ⟨hne, content, hget⟩, hclear, hq⟩, hgrammar⟩

/-- Apart from the order, what is looked up can be read off the files below the folder. -/
theorem candidates_perm (store : Store) (ignored : List String) (loc : Location) (p : Path) :
    (candidates store ignored loc p).Perm
      (((store.filesBelow loc).filter fun below => !below.any ignored.contains).map p.join) :=
  (List.mergeSort_perm _ _).map _

/-- The source files of a folder, in any order. -/
theorem mem_iff_sourceBelow_of_perm {files : List Path}
    (h : files.Perm ((((store.filesBelow loc).filter fun below =>
      !below.any ignored.contains).map p.join).filter Grammar.supports)) (q : Path) :
    q ∈ files ↔ SourceBelow store ignored loc p q := by
  rw [← mem_filter_candidates_iff, ((candidates_perm store ignored loc p).filter _).mem_iff,
    h.mem_iff]

/-- What is looked up below a folder comes in the order of its components, each file once. -/
theorem candidates_pairwise (hs : store.Unambiguous) :
    (candidates store ignored loc p).Pairwise fun a b => a.parts < b.parts := by
  rw [candidates, List.pairwise_map]
  refine (mergeSort_componentsLE_pairwise (hs.nodup_filesBelow.filter _)).imp ?_
  intro as bs hlt
  exact List.append_left_lt hlt

/-- Whether something below a folder that is looked up has a path that is too long. All folders are
    looked up, and the files to which no ignored name leads. -/
def LongBelow (store : Store) (ignored : List String) (loc : Location) (p : Path) : Prop :=
  ∃ below e, below ≠ [] ∧ store.get? (loc ++ below) = some e ∧
    (e = .folder ∨ ∀ part ∈ below, part ∉ ignored) ∧ (p.join below).isTooLong = true

/-- It is met among the folders, which are listed first, or among the files. -/
theorem longBelow_iff (hs : store.Unambiguous) :
    LongBelow store ignored loc p ↔
      ((store.foldersBelow loc).any fun below => (p.join below).isTooLong) = true ∨
        (candidates store ignored loc p).any Path.isTooLong = true := by
  rw [List.any_eq_true, List.any_eq_true]
  constructor
  · intro h
    obtain ⟨below, e, hne, hget, hlooked, hlong⟩ := h
    cases e with
    | folder => exact .inl ⟨below, hs.mem_foldersBelow_iff.mpr ⟨hne, hget⟩, hlong⟩
    | file content =>
      rcases hlooked with hfolder | hclear
      · cases hfolder
      · have hfile := Store.mem_filesBelow_iff.mpr ⟨hne, content, hget⟩
        exact .inr ⟨p.join below, mem_candidates_iff.mpr ⟨below, hfile, hclear, rfl⟩, hlong⟩
  · intro h
    rcases h with ⟨below, hbelow, hlong⟩ | ⟨q, hq, hlong⟩
    · obtain ⟨hne, hget⟩ := hs.mem_foldersBelow_iff.mp hbelow
      exact ⟨below, .folder, hne, hget, .inl rfl, hlong⟩
    · obtain ⟨below, hbelow, hclear, hjoin⟩ := mem_candidates_iff.mp hq
      obtain ⟨hne, content, hget⟩ := Store.mem_filesBelow_iff.mp hbelow
      exact ⟨below, .file content, hne, hget, .inr hclear, hjoin ▸ hlong⟩

/-- Without such a path a folder stands for all of its source files. -/
theorem expandFolder_of_not_longBelow (hs : store.Unambiguous)
    (h : ¬ LongBelow store ignored loc p) :
    expandFolder store ignored loc p =
      ⟨((candidates store ignored loc p).filter Grammar.supports).map .file, none⟩ := by
  rw [longBelow_iff hs, not_or] at h
  obtain ⟨hfolders, hfiles⟩ := h
  have hall : (candidates store ignored loc p).takeWhile (fun q => !q.isTooLong) =
      candidates store ignored loc p := by
    rw [List.takeWhile_eq_self_iff]
    rw [Bool.not_eq_true, List.any_eq_false] at hfiles
    intro q hq
    simpa using hfiles q hq
  simp only [expandFolder, if_neg hfolders, if_neg hfiles, hall]

/-- With such a path it stands for some of them, up to the fault. -/
theorem expandFolder_of_longBelow (hs : store.Unambiguous) (h : LongBelow store ignored loc p) :
    ∃ reached, reached <+: candidates store ignored loc p ∧
      expandFolder store ignored loc p =
        ⟨(reached.filter Grammar.supports).map .file, some .nameTooLong⟩ := by
  unfold expandFolder
  by_cases hfolders : ((store.foldersBelow loc).any fun below => (p.join below).isTooLong) = true
  · rw [if_pos hfolders]
    exact ⟨[], List.nil_prefix, rfl⟩
  · have hfiles := ((longBelow_iff hs).mp h).resolve_left hfolders
    rw [if_neg hfolders]
    refine ⟨_, List.takeWhile_prefix (fun q => !q.isTooLong), ?_⟩
    simp only [if_pos hfiles]

end

/-! ## Single paths -/

/-- Whether the search for a path looks up something that is too long: the path itself, or what is
    below the folder that it names. -/
def MeetsLongPath (store : Store) (cwd : Location) (ignored : List String) (path : String) : Prop :=
  store.find cwd (.ofString path) = .error .nameTooLong ∨
    ∃ loc, store.find cwd (.ofString path) = .ok (loc, .folder) ∧
      LongBelow store ignored loc (.ofString path)

/-- What a path contributes to a search: some files, and what there is to tell. -/
inductive Contributes (store : Store) (cwd : Location) (ignored : List String) (path : String) :
    List Path → List Event → Prop where
  /-- A file contributes itself, whatever its name is. -/
  | file {loc : Location} {content : Bytes} :
    store.find cwd (.ofString path) = .ok (loc, .file content) →
    Contributes store cwd ignored path [.ofString path] []
  /-- Where nothing is, there is a warning. -/
  | missing {f : Fault} :
    store.find cwd (.ofString path) = .error f →
    Contributes store cwd ignored path [] [.missing (Path.ofString path).text]
  /-- A folder contributes its source files, in the order of their components. -/
  | folder {loc : Location} {files : List Path} :
    store.find cwd (.ofString path) = .ok (loc, .folder) →
    (∀ q, q ∈ files ↔ SourceBelow store ignored loc (.ofString path) q) →
    files.Pairwise (fun a b => a.parts < b.parts) →
    Contributes store cwd ignored path files []

/-- A path contributes one thing only: different files come in one order. -/
theorem Contributes.unique {store : Store} {cwd : Location} {ignored : List String} {path : String}
    {files files' : List Path} {events events' : List Event}
    (h : Contributes store cwd ignored path files events)
    (h' : Contributes store cwd ignored path files' events') :
    files = files' ∧ events = events' := by
  cases h with
  | file hfind =>
    cases h' with
    | file => exact ⟨rfl, rfl⟩
    | missing hfind' => simp [hfind] at hfind'
    | folder hfind' => simp [hfind] at hfind'
  | missing hfind =>
    cases h' with
    | file hfind' => simp [hfind] at hfind'
    | missing => exact ⟨rfl, rfl⟩
    | folder hfind' => simp [hfind] at hfind'
  | folder hfind hmem hsorted =>
    cases h' with
    | file hfind' => simp [hfind] at hfind'
    | missing hfind' => simp [hfind] at hfind'
    | folder hfind' hmem' hsorted' =>
      cases hfind.symm.trans hfind'
      have hirrefl : Std.Irrefl fun a b : Path => a.parts < b.parts :=
        ⟨fun a => lt_irrefl a.parts⟩
      have hantisymm : Std.Antisymm fun a b : Path => a.parts < b.parts :=
        ⟨fun a b hab hba => absurd hba (lt_asymm hab)⟩
      refine ⟨hsorted.eq_of_mem_iff hsorted' ?_, rfl⟩
      intro q
      rw [hmem, hmem']

section
variable {store : Store} (hs : store.Unambiguous) {cwd : Location} {ignored : List String}
  {path : String}
include hs

/-- A path that meets nothing too long contributes all that it stands for. -/
theorem expand_of_not_meetsLongPath (h : ¬ MeetsLongPath store cwd ignored path) :
    (expand store cwd ignored path).fault = none ∧
      Contributes store cwd ignored path
        ((expand store cwd ignored path).found.filterMap Found.file?)
        ((expand store cwd ignored path).found.filterMap Found.event?) := by
  cases hfind : store.find cwd (.ofString path) with
  | error f =>
    have hf : f ≠ .nameTooLong := by
      intro hlong
      exact h (.inl (hlong ▸ hfind))
    rw [expand_of_find_error hfind hf]
    exact ⟨rfl, .missing hfind⟩
  | ok r =>
    obtain ⟨loc, e⟩ := r
    cases e with
    | file content =>
      rw [expand_of_find_file hfind]
      exact ⟨rfl, .file hfind⟩
    | folder =>
      have hshort : ¬ LongBelow store ignored loc (.ofString path) :=
        fun hlong => h (.inr ⟨loc, hfind, hlong⟩)
      rw [expand_of_find_folder hfind, expandFolder_of_not_longBelow hs hshort,
        filterMap_file?_map_file, filterMap_event?_map_file]
      exact ⟨rfl, .folder hfind (fun q => mem_filter_candidates_iff)
        ((candidates_pairwise hs).filter _)⟩

/-- A path that meets something too long ends the search, after some of the source files of the
    folder that it names. -/
theorem expand_of_meetsLongPath (h : MeetsLongPath store cwd ignored path) :
    ∃ reached : List Path, expand store cwd ignored path = ⟨reached.map .file, some .nameTooLong⟩ ∧
      reached.Pairwise (fun a b => a.parts < b.parts) ∧
      ∀ q ∈ reached, ∃ loc, store.find cwd (.ofString path) = .ok (loc, .folder) ∧
        SourceBelow store ignored loc (.ofString path) q := by
  rcases h with hself | ⟨loc, hfind, hlong⟩
  · exact ⟨[], expand_of_find_tooLong hself, .nil, by simp⟩
  · obtain ⟨reached, hprefix, hexpand⟩ := expandFolder_of_longBelow hs hlong
    have hsublist := hprefix.sublist.filter Grammar.supports
    refine ⟨reached.filter Grammar.supports, ?_, ?_, ?_⟩
    · rw [expand_of_find_folder hfind, hexpand]
    · exact ((candidates_pairwise hs).filter _).sublist hsublist
    · intro q hq
      exact ⟨loc, hfind, mem_filter_candidates_iff.mp (hsublist.subset hq)⟩

/-- A path ends the search exactly if something too long is looked up for it. -/
theorem expand_fault_eq_none_iff :
    (expand store cwd ignored path).fault = none ↔ ¬ MeetsLongPath store cwd ignored path := by
  constructor
  · intro hnone hmeets
    obtain ⟨reached, hexpand, _, _⟩ := expand_of_meetsLongPath hs hmeets
    rw [hexpand] at hnone
    cases hnone
  · intro h
    exact (expand_of_not_meetsLongPath hs h).1

end

/-! ## The whole search -/

/-- What some paths contribute, one after the other. -/
def Contributions (store : Store) (cwd : Location) (ignored paths : List String)
    (files : List Path) (events : List Event) : Prop :=
  ∃ parts : List (List Path × List Event),
    List.Forall₂ (fun path part => Contributes store cwd ignored path part.1 part.2) paths parts ∧
    files = parts.flatMap Prod.fst ∧ events = parts.flatMap Prod.snd

section
variable {store : Store} {cwd : Location} {ignored : List String}

theorem Contributions.unique {paths : List String} {files files' : List Path}
    {events events' : List Event} (h : Contributions store cwd ignored paths files events)
    (h' : Contributions store cwd ignored paths files' events') :
    files = files' ∧ events = events' := by
  obtain ⟨parts, hparts, hfiles, hevents⟩ := h
  obtain ⟨parts', hparts', hfiles', hevents'⟩ := h'
  have hsame : parts = parts' := by
    refine List.right_unique_forall₂' ?_ hparts hparts'
    intro path part part' hpart hpart'
    obtain ⟨hfst, hsnd⟩ := hpart.unique hpart'
    exact Prod.ext hfst hsnd
  rw [hfiles, hfiles', hevents, hevents', hsame]
  exact ⟨rfl, rfl⟩

/-- Only warnings are told. -/
theorem level_of_mem_events {found : List Found} {e : Event}
    (h : e ∈ found.filterMap Found.event?) : e.level = .warning := by
  obtain ⟨f, _, hevent⟩ := List.mem_filterMap.mp h
  cases f with
  | file p => cases hevent
  | nothing p =>
    cases hevent
    rfl

/-- Paths that meet nothing too long contribute all that they stand for. -/
theorem collect_of_not_meetsLongPath (hs : store.Unambiguous) {paths : List String}
    (h : ∀ path ∈ paths, ¬ MeetsLongPath store cwd ignored path) :
    (collect store cwd ignored paths).fault = none ∧
      Contributions store cwd ignored paths
        ((collect store cwd ignored paths).found.filterMap Found.file?)
        ((collect store cwd ignored paths).found.filterMap Found.event?) := by
  have hfault : (collect store cwd ignored paths).fault = none :=
    collect_fault_eq_none_iff.mpr fun path hpath => (expand_fault_eq_none_iff hs).mpr (h path hpath)
  refine ⟨hfault, paths.map fun path =>
    ((expand store cwd ignored path).found.filterMap Found.file?,
      (expand store cwd ignored path).found.filterMap Found.event?), ?_, ?_, ?_⟩
  · rw [List.forall₂_map_right_iff, List.forall₂_same]
    intro path hpath
    exact (expand_of_not_meetsLongPath hs (h path hpath)).2
  · rw [collect_found_of_no_fault hfault, List.filterMap_flatMap, List.flatMap_map]
  · rw [collect_found_of_no_fault hfault, List.filterMap_flatMap, List.flatMap_map]

/-- The first path that meets something too long ends the search. -/
theorem collect_of_meetsLongPath (hs : store.Unambiguous) {before : List String} {path : String}
    (hbefore : ∀ p ∈ before, ¬ MeetsLongPath store cwd ignored p)
    (hpath : MeetsLongPath store cwd ignored path) (after : List String) :
    ∃ reached : List Path,
      collect store cwd ignored (before ++ path :: after) =
        ⟨(collect store cwd ignored before).found ++ reached.map .file, some .nameTooLong⟩ ∧
      reached.Pairwise (fun a b => a.parts < b.parts) ∧
      ∀ q ∈ reached, ∃ loc, store.find cwd (.ofString path) = .ok (loc, .folder) ∧
        SourceBelow store ignored loc (.ofString path) q := by
  obtain ⟨reached, hexpand, hreached⟩ := expand_of_meetsLongPath hs hpath
  refine ⟨reached, ?_, hreached⟩
  rw [collect_append (collect_of_not_meetsLongPath hs hbefore).1, collect_cons_of_fault hexpand]

end

/-- **What a search finds.** Unless something is too long to be looked up, the files that it finds,
    and what it tells, are the contributions of the paths in their order. Otherwise it ends with the
    first path for which that happens: the paths before it have contributed all that they stand for,
    and this one some source files of the folder that it names, in their order. Only warnings are
    told, and each source file of a folder has a grammar without a language being given. -/
theorem collect_contributions (store : Store) (cwd : Location) (ignored paths : List String) :
    let collected := collect store cwd ignored paths
    let files := collected.found.filterMap Found.file?
    let events := collected.found.filterMap Found.event?
    store.Unambiguous →
    ((∀ path ∈ paths, ¬ MeetsLongPath store cwd ignored path) →
      collected.fault = none ∧ Contributions store cwd ignored paths files events) ∧
    (∀ before path after, paths = before ++ path :: after →
      (∀ p ∈ before, ¬ MeetsLongPath store cwd ignored p) →
      MeetsLongPath store cwd ignored path →
      collected.fault = some .nameTooLong ∧
      ∃ done reached, files = done ++ reached ∧
        Contributions store cwd ignored before done events ∧
        reached.Pairwise (fun a b => a.parts < b.parts) ∧
        ∀ q ∈ reached, ∃ loc, store.find cwd (.ofString path) = .ok (loc, .folder) ∧
          SourceBelow store ignored loc (.ofString path) q) ∧
    (∀ e ∈ events, e.level = .warning) ∧
    (∀ loc p q, SourceBelow store ignored loc p q →
      ∃ g, Grammar.resolve none (some q) = .ok g) := by
  intro collected files events hs
  refine ⟨collect_of_not_meetsLongPath hs, ?_, fun e he => level_of_mem_events he,
    fun loc p q hq => hq.resolve⟩
  intro before path after hpaths hbefore hpath
  obtain ⟨reached, hcollect, hreached⟩ := collect_of_meetsLongPath hs hbefore hpath after
  obtain ⟨_, hdone⟩ := collect_of_not_meetsLongPath hs hbefore
  have hcollected : collected =
      ⟨(collect store cwd ignored before).found ++ reached.map .file, some .nameTooLong⟩ := by
    rw [← hcollect, ← hpaths]
  have hfiles : files =
      (collect store cwd ignored before).found.filterMap Found.file? ++ reached := by
    show collected.found.filterMap Found.file? = _
    rw [hcollected, List.filterMap_append, filterMap_file?_map_file]
  have hevents : events = (collect store cwd ignored before).found.filterMap Found.event? := by
    show collected.found.filterMap Found.event? = _
    rw [hcollected, List.filterMap_append, filterMap_event?_map_file, List.append_nil]
  refine ⟨by rw [hcollected], _, reached, hfiles, ?_, hreached⟩
  rw [hevents]
  exact hdone

end Batch

namespace Sample

/-- A folder with sources at several depths. A folder in it is named like a source, and another one
    is usually ignored. -/
def tree : Store :=
  ⟨[(["src", "b.TS"], []), (["src", "a-b.js"], []), (["src", "a", "x.js"], []),
    (["src", "c.js", "node_modules", "m.js"], []), (["src", "readme.md"], [])],
   [["src"], ["src", "a"], ["src", "c.js"], ["src", "c.js", "node_modules"]]⟩

/-- A folder, a file that is no source, a path where nothing is, and an ignored folder. -/
def searched : List String := ["src", "src/readme.md", "gone.js", "src/c.js/node_modules"]

end Sample

namespace Batch

theorem find_tree :
    Sample.tree.find [] (.ofString "src") = .ok (["src"], .folder) ∧
    Sample.tree.find [] (.ofString "src/readme.md") = .ok (["src", "readme.md"], .file []) ∧
    Sample.tree.find [] (.ofString "gone.js") = .error .noFile ∧
    Sample.tree.find [] (.ofString "src/c.js/node_modules") =
      .ok (["src", "c.js", "node_modules"], .folder) := by
  decide +kernel

theorem not_meetsLongPath_tree :
    ∀ path ∈ Sample.searched, ¬ MeetsLongPath Sample.tree [] defaultIgnored path := by
  have hs : Sample.tree.Unambiguous := by decide +kernel
  obtain ⟨hsrc, hreadme, hgone, hdeep⟩ := find_tree
  have hsrcShort : ¬ LongBelow Sample.tree defaultIgnored ["src"] (.ofString "src") := by
    rw [longBelow_iff hs, (candidates_perm _ _ _ _).any_eq]
    decide +kernel
  have hdeepShort : ¬ LongBelow Sample.tree defaultIgnored ["src", "c.js", "node_modules"]
      (.ofString "src/c.js/node_modules") := by
    rw [longBelow_iff hs, (candidates_perm _ _ _ _).any_eq]
    decide +kernel
  simp [Sample.searched, MeetsLongPath, hsrc, hreadme, hgone, hdeep, hsrcShort, hdeepShort]

/-- The components of a listed folder do not count, and `a` comes before `a-b.js`. -/
theorem contributions_tree :
    Contributions Sample.tree [] defaultIgnored Sample.searched
      (["src/a/x.js", "src/a-b.js", "src/b.TS", "src/readme.md",
        "src/c.js/node_modules/m.js"].map Path.ofString)
      [.missing "gone.js"] := by
  obtain ⟨hsrc, hreadme, hgone, hdeep⟩ := find_tree
  have hsrcAll : Contributes Sample.tree [] defaultIgnored "src"
      (["src/a/x.js", "src/a-b.js", "src/b.TS"].map Path.ofString) [] :=
    .folder hsrc (mem_iff_sourceBelow_of_perm (by decide +kernel)) (by decide +kernel)
  have hdeepAll : Contributes Sample.tree [] defaultIgnored "src/c.js/node_modules"
      (["src/c.js/node_modules/m.js"].map Path.ofString) [] :=
    .folder hdeep (mem_iff_sourceBelow_of_perm (by decide +kernel)) (by decide +kernel)
  exact ⟨[(_, _), (_, _), (_, _), (_, _)],
    .cons hsrcAll (.cons (.file hreadme) (.cons (.missing hgone) (.cons hdeepAll .nil))),
    by decide +kernel, by decide +kernel⟩

/-- Four paths, each of them of another kind. -/
theorem collect_contributions_tree :
    Sample.tree.Unambiguous ∧
    (∀ path ∈ Sample.searched, ¬ MeetsLongPath Sample.tree [] defaultIgnored path) ∧
    (collect Sample.tree [] defaultIgnored Sample.searched).found.filterMap Found.file? =
      ["src/a/x.js", "src/a-b.js", "src/b.TS", "src/readme.md",
        "src/c.js/node_modules/m.js"].map Path.ofString ∧
    (collect Sample.tree [] defaultIgnored Sample.searched).found.filterMap Found.event? =
      [.missing "gone.js"] := by
  have hs : Sample.tree.Unambiguous := by decide +kernel
  obtain ⟨hall, _⟩ := collect_contributions Sample.tree [] defaultIgnored Sample.searched hs
  obtain ⟨_, hcontributions⟩ := hall not_meetsLongPath_tree
  exact ⟨hs, not_meetsLongPath_tree, hcontributions.unique contributions_tree⟩

/-- **A path that is too long is not passed over.** Nothing is there, but instead of a warning the
    search ends, and the file behind the path is not found. -/
theorem collect_stopped_by_long_path :
    Sample.project.Unambiguous ∧
    Sample.project.get? [Sample.tooLong] = none ∧
    collect Sample.project Sample.workspace.cwd [] [Sample.tooLong, "Foo.js"] =
      ⟨[], some .nameTooLong⟩ ∧
    ¬ Contributions Sample.project Sample.workspace.cwd [] [Sample.tooLong, "Foo.js"] [] [] := by
  refine ⟨by decide +kernel, by decide +kernel, collect_cons_of_fault expand_tooLong _, ?_⟩
  intro hnothing
  -- The contributions are determined, and that of the file is the file.
  have hfoo : Sample.project.find Sample.workspace.cwd (.ofString "Foo.js") =
      .ok (["Foo.js"], .file (Utf8.ofString Sample.tupleSource)) := rfl
  have hexpected : Contributions Sample.project Sample.workspace.cwd [] [Sample.tooLong, "Foo.js"]
      [.ofString "Foo.js"] [.missing (Path.ofString Sample.tooLong).text] :=
    ⟨[(_, _), (_, _)], .cons (.missing find_tooLong) (.cons (.file hfoo) .nil), rfl, rfl⟩
  cases (hnothing.unique hexpected).1

end Batch

end ArityFill
