import ArityFill.Batch.Collect
import ArityFill.Proofs.Store.Shape
import Mathlib.Data.List.TakeWhile

/-! # What the search for files finds

    Every file that is found is there: in a well-formed store its path leads to a file. The search
    only asks for the shape of the store, so it finds the same before and after files are
    overwritten. Without a fault it finds what each path finds alone, so that the order of the paths
    is the order of what they find.
-/

namespace ArityFill

namespace Store

theorem below?_eq_some_iff {loc l : Location} {below : List String} :
    below? loc l = some below ↔ below ≠ [] ∧ l = loc ++ below := by
  unfold below?
  constructor
  · intro h
    split at h
    · next hprefix =>
      obtain ⟨rest, rfl⟩ := List.isPrefixOf_iff_prefix.mp hprefix.1
      rw [List.drop_left, Option.some.injEq] at h
      subst h
      refine ⟨?_, rfl⟩
      intro hnil
      simp [hnil] at hprefix
    · cases h
  · rintro ⟨hne, rfl⟩
    have hpos := List.length_pos_iff.mpr hne
    rw [if_pos, List.drop_left]
    refine ⟨List.isPrefixOf_iff_prefix.mpr (List.prefix_append loc below), ?_⟩
    rw [List.length_append]
    omega

theorem filesBelow_eq_filterMap (s : Store) (loc : Location) :
    s.filesBelow loc = (s.files.map Prod.fst).filterMap (below? loc) := by
  rw [List.filterMap_map]
  rfl

/-- What is listed below a location is the files there. -/
theorem mem_filesBelow_iff {s : Store} {loc : Location} {below : List String} :
    below ∈ s.filesBelow loc ↔
      below ≠ [] ∧ ∃ content, s.get? (loc ++ below) = some (.file content) := by
  rw [filesBelow_eq_filterMap, List.mem_filterMap]
  constructor
  · intro h
    obtain ⟨l, hl, hbelow⟩ := h
    obtain ⟨hne, hloc⟩ := below?_eq_some_iff.mp hbelow
    rw [hloc] at hl
    exact ⟨hne, get?_of_mem_files hl⟩
  · intro h
    obtain ⟨hne, content, hget⟩ := h
    have hsome := isSome_lookup_eq s (loc ++ below)
    rw [get?_eq_file_iff.mp hget] at hsome
    exact ⟨loc ++ below, of_decide_eq_true hsome.symm, below?_eq_some_iff.mpr ⟨hne, rfl⟩⟩

theorem SameShape.filesBelow_eq {s t : Store} (h : s.SameShape t) (loc : Location) :
    t.filesBelow loc = s.filesBelow loc := by
  rw [filesBelow_eq_filterMap, filesBelow_eq_filterMap, h.files]

end Store

namespace Batch

/-! ## The files that are found are there -/

section
variable {store : Store} {cwd : Location} {ignored : List String}

/-- The files below a folder that no ignored name leads to are looked up. -/
theorem mem_candidates_iff {loc : Location} {p q : Path} :
    q ∈ candidates store ignored loc p ↔
      ∃ below ∈ store.filesBelow loc, (∀ part ∈ below, part ∉ ignored) ∧ q = p.join below := by
  simp only [candidates, List.mem_map, List.mem_mergeSort, List.mem_filter, Bool.not_eq_true',
    List.any_eq_false, List.contains_iff_mem]
  constructor
  · intro h
    obtain ⟨below, ⟨hbelow, hclear⟩, hq⟩ := h
    exact ⟨below, hbelow, hclear, hq.symm⟩
  · intro h
    obtain ⟨below, hbelow, hclear, hq⟩ := h
    exact ⟨below, ⟨hbelow, hclear⟩, hq.symm⟩

/-- The files of a folder are below it, and their paths are not too long. -/
theorem mem_expandFolder {loc : Location} {p q : Path}
    (h : .file q ∈ (expandFolder store ignored loc p).found) :
    q.isTooLong = false ∧ ∃ below ∈ store.filesBelow loc, q = p.join below := by
  unfold expandFolder at h
  split at h
  · cases h
  · simp only [List.mem_map, Found.file.injEq, exists_eq_right] at h
    obtain ⟨hreached, _⟩ := List.mem_filter.mp h
    refine ⟨by simpa using List.mem_takeWhile_imp hreached, ?_⟩
    obtain ⟨below, hbelow, _, hq⟩ :=
      mem_candidates_iff.mp ((List.takeWhile_prefix _).subset hreached)
    exact ⟨below, hbelow, hq⟩

theorem expand_of_find_file {path : String} {loc : Location} {content : Bytes}
    (h : store.find cwd (.ofString path) = .ok (loc, .file content)) :
    expand store cwd ignored path = ⟨[.file (.ofString path)], none⟩ := by
  simp only [expand, h]

theorem expand_of_find_tooLong {path : String}
    (h : store.find cwd (.ofString path) = .error .nameTooLong) :
    expand store cwd ignored path = ⟨[], some .nameTooLong⟩ := by
  simp only [expand, h]

theorem expand_of_find_folder {path : String} {loc : Location}
    (h : store.find cwd (.ofString path) = .ok (loc, .folder)) :
    expand store cwd ignored path = expandFolder store ignored loc (.ofString path) := by
  simp only [expand, h]

/-- Any other fault says that nothing is there. -/
theorem expand_of_find_error {path : String} {f : Fault}
    (h : store.find cwd (.ofString path) = .error f) (hf : f ≠ .nameTooLong) :
    expand store cwd ignored path = ⟨[.nothing (.ofString path)], none⟩ := by
  simp only [expand, h]

/-- A file that one path stands for is there. -/
theorem expand_file (hs : store.WellFormed) {path : String} {q : Path}
    (h : .file q ∈ (expand store cwd ignored path).found) :
    ∃ loc content, store.find cwd q = .ok (loc, .file content) := by
  simp only [expand] at h
  split at h
  · next loc content hfind =>
    cases List.mem_singleton.mp h
    exact ⟨loc, content, hfind⟩
  · -- Below a folder, the path of the folder and the components on from there lead to the file.
    next loc hfind =>
    obtain ⟨hshort, below, hbelow, rfl⟩ := mem_expandFolder h
    obtain ⟨_, content, hentry⟩ := Store.mem_filesBelow_iff.mp hbelow
    exact ⟨loc ++ below, content, hs.find_join hfind hentry hshort⟩
  · cases h
  · cases List.mem_singleton.mp h

theorem collect_cons_of_fault {path : String} {found : List Found} {f : Fault}
    (h : expand store cwd ignored path = ⟨found, some f⟩) (paths : List String) :
    collect store cwd ignored (path :: paths) = ⟨found, some f⟩ := by
  simp only [collect, h]

theorem collect_cons_of_no_fault {path : String} {found : List Found}
    (h : expand store cwd ignored path = ⟨found, none⟩) (paths : List String) :
    collect store cwd ignored (path :: paths) =
      ⟨found ++ (collect store cwd ignored paths).found,
        (collect store cwd ignored paths).fault⟩ := by
  simp only [collect, h]

/-- Whatever is found is found for one of the paths. -/
theorem mem_collect {paths : List String} {f : Found}
    (h : f ∈ (collect store cwd ignored paths).found) :
    ∃ path ∈ paths, f ∈ (expand store cwd ignored path).found := by
  induction paths with
  | nil => cases h
  | cons path paths ih =>
    rcases hexpand : expand store cwd ignored path with ⟨found, _ | fault⟩
    · rw [collect_cons_of_no_fault hexpand] at h
      rcases List.mem_append.mp h with hfirst | hrest
      · exact ⟨path, List.mem_cons_self, by rw [hexpand]; exact hfirst⟩
      · obtain ⟨path', hpath', hf⟩ := ih hrest
        exact ⟨path', List.mem_cons_of_mem _ hpath', hf⟩
    · rw [collect_cons_of_fault hexpand] at h
      exact ⟨path, List.mem_cons_self, by rw [hexpand]; exact h⟩

/-- A file that is found is there. -/
theorem collect_file (hs : store.WellFormed) {paths : List String} {q : Path}
    (h : .file q ∈ (collect store cwd ignored paths).found) :
    ∃ loc content, store.find cwd q = .ok (loc, .file content) := by
  obtain ⟨_, _, hfound⟩ := mem_collect h
  exact expand_file hs hfound

/-! ## The order of the paths -/

/-- Only a path that is too long to be looked up ends the search. -/
theorem eq_nameTooLong_of_expand_fault {path : String} {f : Fault}
    (h : (expand store cwd ignored path).fault = some f) : f = .nameTooLong := by
  unfold expand at h
  dsimp only at h
  split at h
  · cases h
  · unfold expandFolder at h
    split at h
    · exact (Option.some.inj h).symm
    · dsimp only at h
      split at h
      · exact (Option.some.inj h).symm
      · cases h
  · exact (Option.some.inj h).symm
  · cases h

theorem eq_nameTooLong_of_collect_fault {paths : List String} {f : Fault}
    (h : (collect store cwd ignored paths).fault = some f) : f = .nameTooLong := by
  induction paths with
  | nil => cases h
  | cons path paths ih =>
    rcases hexpand : expand store cwd ignored path with ⟨found, _ | fault⟩
    · rw [collect_cons_of_no_fault hexpand] at h
      exact ih h
    · rw [collect_cons_of_fault hexpand, ← hexpand] at h
      exact eq_nameTooLong_of_expand_fault h

theorem collect_fault_eq_none_iff {paths : List String} :
    (collect store cwd ignored paths).fault = none ↔
      ∀ path ∈ paths, (expand store cwd ignored path).fault = none := by
  induction paths with
  | nil => simp [collect]
  | cons path paths ih =>
    rw [List.forall_mem_cons, ← ih]
    rcases hexpand : expand store cwd ignored path with ⟨found, _ | fault⟩
    · rw [collect_cons_of_no_fault hexpand]
      simp
    · rw [collect_cons_of_fault hexpand]
      simp

theorem collect_found_of_no_fault {paths : List String}
    (h : (collect store cwd ignored paths).fault = none) :
    (collect store cwd ignored paths).found =
      paths.flatMap fun path => (expand store cwd ignored path).found := by
  induction paths with
  | nil => rfl
  | cons path paths ih =>
    have hall := collect_fault_eq_none_iff.mp h
    have hrest := collect_fault_eq_none_iff.mpr fun p hp => hall p (List.mem_cons_of_mem _ hp)
    have hexpand : expand store cwd ignored path =
        ⟨(expand store cwd ignored path).found, none⟩ := by
      rw [← hall path List.mem_cons_self]
    rw [collect_cons_of_no_fault hexpand, List.flatMap_cons, ← ih hrest]

/-- Without a fault in the first of the paths the search goes on with the others. -/
theorem collect_append {before : List String}
    (h : (collect store cwd ignored before).fault = none) (after : List String) :
    collect store cwd ignored (before ++ after) =
      ⟨(collect store cwd ignored before).found ++ (collect store cwd ignored after).found,
        (collect store cwd ignored after).fault⟩ := by
  induction before with
  | nil => rfl
  | cons path before ih =>
    rcases hexpand : expand store cwd ignored path with ⟨found, _ | fault⟩
    · rw [collect_cons_of_no_fault hexpand] at h ⊢
      rw [List.cons_append, collect_cons_of_no_fault hexpand, ih h, List.append_assoc]
    · rw [collect_cons_of_fault hexpand] at h
      cases h

/-- The paths in another order have a fault among them too, or find the same in another order. -/
theorem collect_perm {paths paths' : List String} (h : paths.Perm paths') :
    ((collect store cwd ignored paths').fault = none ↔
      (collect store cwd ignored paths).fault = none) ∧
    ((collect store cwd ignored paths).fault = none →
      (collect store cwd ignored paths').found.Perm (collect store cwd ignored paths).found) := by
  have hfault : (collect store cwd ignored paths').fault = none ↔
      (collect store cwd ignored paths).fault = none := by
    rw [collect_fault_eq_none_iff, collect_fault_eq_none_iff]
    exact ⟨fun hall p hp => hall p (h.mem_iff.mp hp), fun hall p hp => hall p (h.mem_iff.mpr hp)⟩
  refine ⟨hfault, ?_⟩
  intro hnone
  rw [collect_found_of_no_fault hnone, collect_found_of_no_fault (hfault.mpr hnone)]
  exact (h.flatMap_right _).symm

end

/-! ## The search and the shape of the store -/

section
variable {s t : Store} (h : s.SameShape t) (cwd : Location) (ignored : List String)
include h

theorem expand_of_sameShape (path : String) :
    expand t cwd ignored path = expand s cwd ignored path := by
  simp only [expand]
  cases hs : s.find cwd (Path.ofString path) with
  | error f =>
    rw [h.find_error hs]
    cases f <;> rfl
  | ok r =>
    obtain ⟨loc, e⟩ := r
    cases e with
    | file content =>
      obtain ⟨content', _, ht⟩ := h.find_file hs
      rw [ht]
    | folder =>
      have hfolders : t.foldersBelow loc = s.foldersBelow loc := by
        rw [Store.foldersBelow, Store.foldersBelow, h.folders]
      rw [h.find_folder hs]
      simp only
      rw [expandFolder, expandFolder, candidates, candidates, h.filesBelow_eq, hfolders]

/-- The search finds the same in stores of one shape. -/
theorem collect_of_sameShape (paths : List String) :
    collect t cwd ignored paths = collect s cwd ignored paths := by
  induction paths with
  | nil => rfl
  | cons path paths ih => rw [collect, collect, expand_of_sameShape h, ih]

end

end Batch

end ArityFill
