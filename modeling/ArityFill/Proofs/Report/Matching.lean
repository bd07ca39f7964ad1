import ArityFill.Fill.Basic
import ArityFill.Proofs.Path.Key
import ArityFill.Proofs.Report.Load

/-! # Matching by path is finer than matching by base name

    Three places say what the file of a path is called: the key by base name cuts the text behind
    the last separator, the test for declaration files takes the last component, and the key by path
    is the text of the place that the path leads to. On paths that end in a name the three agree,
    however the way to that name is written.

    So files that share a key by path share a key by base name, and of a report on such paths,
    matching by path finds some of the errors that matching by base name finds, in the same order.
-/

namespace ArityFill.Report

variable {cwd : Location}

/-- A path without U+0000 has a key, however files are matched. -/
theorem exists_key_of_noNull {path : String} (h : Path.hasNull path = false) (cwd : Location)
    (m : Matching) : ∃ key, Path.key cwd m path = .ok key := by
  cases hkey : Path.key cwd m path with
  | ok key => exact ⟨key, rfl⟩
  | error f =>
    rw [(key_eq_error_iff.mp hkey).2.1] at h
    cases h

/-- An entry whose path holds no U+0000 stops under both ways to match, or under none. -/
theorem stop?_of_noNull {entry : Json} (h : ∀ e ∈ errorOf? entry, Path.hasNull e.path = false)
    (m m' : Matching) : stop? cwd m entry = stop? cwd m' entry := by
  unfold errorOf? at h
  unfold stop? place
  cases hentry : Index.entryError? entry with
  | error f => rfl
  | ok e =>
    cases e with
    | none => rfl
    | some e =>
      rw [hentry] at h
      obtain ⟨key, hkey⟩ := exists_key_of_noNull (h e rfl) cwd m
      obtain ⟨key', hkey'⟩ := exists_key_of_noNull (h e rfl) cwd m'
      simp [hkey, hkey']

/-- Without U+0000 in its paths, a report that can be loaded under one way to match can be loaded
    under the other. -/
theorem load_eq_error_of_noNull {store : Store} {report : Option String}
    (h : ∀ e ∈ (entriesIn store cwd report).filterMap errorOf?, Path.hasNull e.path = false)
    {m m' : Matching} {f : Fault} (hload : load store cwd report m = .error f) :
    load store cwd report m' = .error f := by
  rw [load_eq_error_iff_findSome?, ← List.head?_filterMap] at hload ⊢
  rw [← hload]
  congr 1
  apply List.filterMap_congr
  intro entry hentry
  apply stop?_of_noNull
  intro e he
  exact h e (List.mem_filterMap.mpr ⟨entry, hentry, he⟩)

/-- Of errors whose paths end in names, those that concern a path under matching by path are among
    those that concern it under matching by base name. -/
theorem filter_concerns_sublist {errors : List ArityError} {path name : String}
    (herrors : ∀ e ∈ errors, ∃ name', Path.EndsIn e.path name') (hpath : Path.EndsIn path name) :
    (errors.filter (concerns cwd .path path)).Sublist
      (errors.filter (concerns cwd .basename path)) := by
  have hfiner : ∀ e ∈ errors, concerns cwd .path path e = true →
      concerns cwd .basename path e = true := by
    intro e he hsame
    obtain ⟨name', hname'⟩ := herrors e he
    obtain ⟨folder, hkey⟩ := hpath.key_path cwd
    have hkey' : Path.key cwd .path e.path = .ok _ := (of_decide_eq_true hsame).trans hkey
    apply decide_eq_true
    rw [hpath.key_basename, hname'.key_basename, hpath.name_eq hname' hkey hkey']
  have hagain : errors.filter (concerns cwd .path path) =
      (errors.filter (concerns cwd .basename path)).filter (concerns cwd .path path) := by
    rw [List.filter_filter]
    apply List.filter_congr
    intro e he
    rw [Bool.eq_self_and]
    exact hfiner e he
  rw [hagain]
  exact List.filter_sublist

/-- **Matching by path is finer.** Let a path end in a name. Then the name is its key by base name,
    it is what the test for declaration files looks at, and it is what the key by path ends in. So
    two such paths that lead to one place have one key by base name. A report whose errors are about
    such paths is loaded under both ways to match or stopped under both by the same fault; and if it
    is loaded, the errors that matching by path finds for such a path are some of those that
    matching by base name finds, in the same order. -/
theorem matching_by_path_finer (cwd : Location) :
    (∀ path name, Path.EndsIn path name →
      Path.key cwd .basename path = .ok name ∧
      (Path.ofString (Path.forward path)).name = name ∧
      (∀ suffixes, isDeclarationFile path suffixes =
        suffixes.any fun s => s.toList.isSuffixOf name.toList) ∧
      ∃ key, Path.key cwd .path path = .ok key ∧ (Path.ofString key).name = name ∧
        Text.LastRun Path.isSeparator key.toList name.toList) ∧
    (∀ path path' name name', Path.EndsIn path name → Path.EndsIn path' name' →
      Path.key cwd .path path = Path.key cwd .path path' →
      Path.key cwd .basename path = Path.key cwd .basename path') ∧
    ∀ store report,
      (∀ e ∈ (entriesIn store cwd report).filterMap errorOf?,
        ∃ name, Path.EndsIn e.path name) →
      (∃ f, load store cwd report .path = .error f ∧ load store cwd report .basename = .error f) ∨
      ∃ byPath event byName event',
        load store cwd report .path = .ok (byPath, event) ∧
        load store cwd report .basename = .ok (byName, event') ∧
        ∀ path name, Path.EndsIn path name →
          ∃ es es', byPath.recordsFor cwd path = .ok es ∧ byName.recordsFor cwd path = .ok es' ∧
            es.Sublist es' := by
  refine ⟨?_, ?_, ?_⟩
  · intro path name h
    obtain ⟨folder, hkey⟩ := h.key_path cwd
    obtain ⟨hlast, hname⟩ := h.lastRun_locationText folder
    refine ⟨h.key_basename cwd, h.name_forward, ?_, _, hkey, hname, hlast⟩
    intro suffixes
    simp only [isDeclarationFile, h.name_forward]
  · intro path path' name name' h h' hsame
    obtain ⟨folder, hkey⟩ := h.key_path cwd
    rw [h.key_basename, h'.key_basename, h.name_eq h' hkey (hsame.symm.trans hkey)]
  · intro store report hnames
    have hnull : ∀ e ∈ (entriesIn store cwd report).filterMap errorOf?,
        Path.hasNull e.path = false := by
      intro e he
      obtain ⟨name, hname⟩ := hnames e he
      exact hname.noNull
    cases hpath : load store cwd report .path with
    | error f => exact .inl ⟨f, rfl, load_eq_error_of_noNull hnull hpath⟩
    | ok byPath =>
      cases hbase : load store cwd report .basename with
      | error f =>
        rw [load_eq_error_of_noNull hnull hbase] at hpath
        cases hpath
      | ok byName =>
        refine .inr ⟨byPath.1, byPath.2, byName.1, byName.2, rfl, rfl, ?_⟩
        intro path name h
        obtain ⟨folder, hkey⟩ := h.key_path cwd
        refine ⟨_, _, (recordsFor_of_load hpath path).1.trans (by rw [hkey]; rfl),
          (recordsFor_of_load hbase path).1.trans (by rw [h.key_basename]; rfl), ?_⟩
        exact filter_concerns_sublist hnames h

/-- A path with separators of both kinds and dots on its way. Matching by path finds the error about
    its own file only, matching by base name also finds the one about the other folder. -/
theorem matching_by_path_finer_two_folders :
    let path := ".\\r/..//r/a.js"
    let store := Sample.reportStore Sample.twoFolders
    Path.key [] .basename path = .ok "a.js" ∧
    Path.key [] .basename path = Path.key [] .basename "/r/a.js" ∧
    ∃ byPath event byName event' es es',
      load store [] (some "errors.json") .path = .ok (byPath, event) ∧
      load store [] (some "errors.json") .basename = .ok (byName, event') ∧
      byPath.recordsFor [] path = .ok es ∧ byName.recordsFor [] path = .ok es' ∧
      es.Sublist es' ∧ es.length = 1 ∧ es'.length = 2 := by
  intro path store
  obtain ⟨hload, herrors⟩ := @load_reportStore Sample.twoFolders .path
    ⟨[("/r/a.js", [⟨"/r/a.js", 10, 13, 2⟩]), ("/z/a.js", [⟨"z\\a.js", 4, 5, 1⟩])], .path, 2⟩
    [⟨"/r/a.js", 10, 13, 2⟩, ⟨"z\\a.js", 4, 5, 1⟩] (by
      rw [entries?, Sample.twoFolders, Sample.reportOf, String.toList_ofList]
      decide +kernel)
  obtain ⟨hload', _⟩ := @load_reportStore Sample.twoFolders .basename
    ⟨[("a.js", [⟨"/r/a.js", 10, 13, 2⟩, ⟨"z\\a.js", 4, 5, 1⟩])], .basename, 2⟩
    [⟨"/r/a.js", 10, 13, 2⟩, ⟨"z\\a.js", 4, 5, 1⟩] (by
      rw [entries?, Sample.twoFolders, Sample.reportOf, String.toList_ofList]
      decide +kernel)
  have hpath : Path.EndsIn path "a.js" := by decide +kernel
  have hnames : ∀ e ∈ (entriesIn store [] (some "errors.json")).filterMap errorOf?,
      ∃ name, Path.EndsIn e.path name := by
    intro e he
    rw [herrors, List.mem_cons, List.mem_singleton] at he
    obtain rfl | rfl := he <;> exact ⟨"a.js", by decide +kernel⟩
  obtain ⟨hagree, hsame, hreports⟩ := matching_by_path_finer []
  refine ⟨(hagree path "a.js" hpath).1,
    hsame path "/r/a.js" "a.js" "a.js" hpath (by decide +kernel) (by decide +kernel), ?_⟩
  obtain ⟨f, hfault, _⟩ | ⟨byPath, event, byName, event', hby, hname, hfiner⟩ :=
    hreports store (some "errors.json") hnames
  · rw [hload] at hfault
    cases hfault
  · obtain ⟨es, es', hes, hes', hsublist⟩ := hfiner path "a.js" hpath
    refine ⟨byPath, event, byName, event', es, es', hby, hname, hes, hes', hsublist, ?_⟩
    rw [hload] at hby
    rw [hload'] at hname
    cases hby
    cases hname
    have hone : es = [⟨"/r/a.js", 10, 13, 2⟩] := by
      rw [← Except.ok.injEq, ← hes]
      decide +kernel
    have htwo : es' = [⟨"/r/a.js", 10, 13, 2⟩, ⟨"z\\a.js", 4, 5, 1⟩] := by
      rw [← Except.ok.injEq, ← hes']
      decide +kernel
    rw [hone, htwo]
    exact ⟨rfl, rfl⟩

end ArityFill.Report
