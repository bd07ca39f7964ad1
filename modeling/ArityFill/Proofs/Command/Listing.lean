import ArityFill.Command.Run
import ArityFill.Proofs.Path.Key
import ArityFill.Proofs.Report.Index

/-! # What a listing shows of an index

    To list an index, its keys are looked up one by one, as if they were paths. A key that had
    another key of its own would lose its rows without notice. It has not: a key is its own key, so
    the lookup of a key gives its group, and the rows of all lookups are the errors of the index.
-/

namespace ArityFill

open Report (ArityError Index)

section
variable {cwd : Location} {m : Matching} (hcwd : m = .path → ∀ part ∈ cwd, Path.Plain part)
include hcwd

/-- In the index of some entries, a key that is looked up like a path gives its own group. -/
theorem Report.Index.recordsFor_key_of_ofEntries {entries : List Json} {index : Index}
    (hof : Index.ofEntries cwd m entries = .ok index) {key : String} {errors : List ArityError}
    (hmem : (key, errors) ∈ index.groups) : index.recordsFor cwd key = .ok errors := by
  obtain ⟨hstop, rfl⟩ := Index.ofEntries_eq_ok_iff.mp hof
  obtain ⟨_, hkeys⟩ := Report.filterMap_placed? hstop
  obtain ⟨key', hkey', hgroup⟩ := List.mem_map.mp hmem
  cases hgroup
  -- The key was made from the path of some error.
  obtain ⟨e, he, rfl⟩ := List.mem_map.mp (List.mem_eraseDups.mp hkey')
  have hself : Path.key cwd m e.1 = .ok e.1 := Path.key_key hcwd (hkeys e he)
  rw [Index.recordsFor_eq, hself, Except.map, Report.group_groupsOf]

/-- So it does in an index that was loaded. -/
theorem Report.recordsFor_key_of_load {store : Store} {report : Option String} {index : Index}
    {event : Event} (hload : Report.load store cwd report m = .ok (index, event))
    {key : String} {errors : List ArityError} (hmem : (key, errors) ∈ index.groups) :
    index.recordsFor cwd key = .ok errors := by
  obtain ⟨total, hof⟩ := Report.groups_of_load hload
  -- The number of entries plays no part in a lookup.
  exact Index.recordsFor_key_of_ofEntries hcwd hof hmem

end

namespace Command

/-- The rows of a group: its key, and the place and arity of each error. -/
def groupRows (group : String × List ArityError) : List (List String) :=
  group.2.map fun e => [group.1, toString e.start, toString e.stop, toString e.arity]

/-- Keys that give their own groups give the rows of these groups, one group after the other. -/
theorem indexRows_of_groups {cwd : Location} {index : Index}
    {groups : List (String × List ArityError)}
    (h : ∀ group ∈ groups, index.recordsFor cwd group.1 = .ok group.2) :
    indexRows cwd index (groups.map Prod.fst) = .ok (groups.flatMap groupRows) := by
  induction groups with
  | nil => rfl
  | cons group groups ih =>
    rw [List.forall_mem_cons] at h
    simp only [List.map_cons, indexRows, h.1, ih h.2, List.flatMap_cons, groupRows]

/-- There are as many rows as errors. -/
theorem length_flatMap_groupRows (index : Index) :
    (index.groups.flatMap groupRows).length = index.size := by
  unfold Index.size
  induction index.groups with
  | nil => rfl
  | cons group groups ih =>
    rw [List.flatMap_cons, List.length_append, List.foldr_cons, ih, groupRows, List.length_map]

/-- **A listing shows the whole index.** A key is its own key; by path this needs a current
    directory whose components can be read back, so without backslashes in particular. Hence, in an
    index that was loaded, each key finds the group that is stored under it, and the rows of a
    listing, before any limit, are the errors of the index, key by key in the order of the keys, as
    many as the index has. -/
theorem listing_shows_index (cwd : Location) (m : Matching)
    (hcwd : m = .path → ∀ part ∈ cwd, Path.Plain part) :
    (∀ path key, Path.key cwd m path = .ok key → Path.key cwd m key = .ok key) ∧
    ∀ store report index event, Report.load store cwd report m = .ok (index, event) →
      (∀ group ∈ index.groups, index.recordsFor cwd group.1 = .ok group.2) ∧
      indexRows cwd index index.files = .ok (index.groups.flatMap groupRows) ∧
      (index.groups.flatMap groupRows).length = index.size := by
  refine ⟨fun path key hkey => Path.key_key hcwd hkey, ?_⟩
  intro store report index event hload
  have hgroups : ∀ group ∈ index.groups, index.recordsFor cwd group.1 = .ok group.2 := by
    intro group hgroup
    exact Report.recordsFor_key_of_load hcwd hload hgroup
  exact ⟨hgroups, indexRows_of_groups hgroups, length_flatMap_groupRows index⟩

/-- A report on two folders, read from a folder of its own and matched by path. -/
theorem listing_shows_index_two_folders :
    Path.key ["repo"] .path "/repo/z/a.js" = .ok "/repo/z/a.js" ∧
    ∃ index event,
      Report.load (Sample.reportStore Sample.twoFolders) ["repo"] (some "/errors.json") .path =
        .ok (index, event) ∧
      indexRows ["repo"] index index.files =
        .ok [["/r/a.js", "10", "13", "2"], ["/repo/z/a.js", "4", "5", "1"]] := by
  let index : Index := ⟨[("/r/a.js", [⟨"/r/a.js", 10, 13, 2⟩]),
    ("/repo/z/a.js", [⟨"z\\a.js", 4, 5, 1⟩])], .path, 2⟩
  have hindex : (Report.entries? Sample.twoFolders).map (Index.ofEntries ["repo"] .path) =
      some (.ok index) := by
    rw [Report.entries?, Sample.twoFolders, Sample.reportOf, String.toList_ofList]
    decide +kernel
  obtain ⟨entries, hentries, hof⟩ := Option.map_eq_some_iff.mp hindex
  have hfind : (Sample.reportStore Sample.twoFolders).find ["repo"] (.ofString "/errors.json") =
      .ok (["errors.json"], .file (Utf8.ofString Sample.twoFolders)) := rfl
  have hread : Report.readEntries (Sample.reportStore Sample.twoFolders) ["repo"] "/errors.json" =
      .ok entries := by
    rw [Report.readEntries_of_find hfind, hentries]
  have hload : Report.load (Sample.reportStore Sample.twoFolders) ["repo"] (some "/errors.json")
      .path = .ok (index, .loaded 2 2 "/errors.json") := by
    rw [Report.load_of_readEntries (by decide) hread, hof]
    rfl
  have hcwd : Matching.path = .path → ∀ part ∈ ["repo"], Path.Plain part := fun _ =>
    List.forall_mem_singleton.mpr (by decide +kernel)
  obtain ⟨hkeys, hlists⟩ := listing_shows_index ["repo"] .path hcwd
  obtain ⟨_, hrows, _⟩ := hlists _ _ index _ hload
  refine ⟨hkeys "z\\a.js" _ (by decide +kernel), index, _, hload, ?_⟩
  rw [hrows]
  decide +kernel

end Command

end ArityFill
