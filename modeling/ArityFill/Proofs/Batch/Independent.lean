import ArityFill.Proofs.Batch.Frame

/-! # Files of a batch do not depend on each other

    If no file is reached twice, then every visit finds the bytes of the start, and the batch comes
    to what the single files come to: the outcomes are those of the files taken alone, and the store
    is that of the start with each file updated. Updates of different files can be made in any
    order, and so the order of the paths only decides the order of the outcomes.

    A path that is too long to be looked up ends the batch where it stands. What was visited before
    it keeps its new bytes, so with such a path the order does matter: `run_order_matters`.
-/

namespace ArityFill

open Report (Index)

namespace Batch

/-! ## Targets -/

/-- A file that is visited. -/
structure Target where
  /-- The path by which it is visited. -/
  path : Path
  /-- Where it is. -/
  loc : Location
  /-- Its content at the start. -/
  content : Bytes
  deriving DecidableEq

/-- The file that something found stands for. -/
def target? (store : Store) (cwd : Location) : Found → Option Target
  | .nothing _ => none
  | .file p =>
    match store.find cwd p with
    | .ok (loc, .file content) => some ⟨p, loc, content⟩
    | _ => none

/-- The files among what was found. -/
def targets (store : Store) (cwd : Location) (found : List Found) : List Target :=
  found.filterMap (target? store cwd)

namespace Target

/-- The verdict about a file taken alone. -/
def alone (w : Workspace) (o : Options) (index : Except Fault Index) (t : Target) : Verdict :=
  verdict w o index t.path t.content

/-- The outcome of a file taken alone. -/
def outcome (w : Workspace) (o : Options) (index : Except Fault Index) (t : Target) : Outcome :=
  ⟨t.path, (t.alone w o index).status⟩

end Target

/-- The store after each of some files has been visited alone. -/
def settleAll (w : Workspace) (o : Options) (dryRun : Bool) (index : Except Fault Index)
    (store : Store) (ts : List Target) : Store :=
  ts.foldl (fun st t => settle dryRun st t.loc (t.alone w o index)) store

theorem target?_of_find {store : Store} {cwd : Location} {p : Path} {loc : Location}
    {content : Bytes} (h : store.find cwd p = .ok (loc, .file content)) :
    target? store cwd (.file p) = some ⟨p, loc, content⟩ := by
  simp only [target?, h]

section
variable {w : Workspace} {o : Options} {dryRun : Bool} {index : Except Fault Index}

/-! ## A batch in terms of its files -/

/-- A batch comes to the outcomes of its files, and to the store in which they are settled one after
    the other, if it meets each of them with the content of the start. -/
theorem visitAll_targets {start : Store} {found : List Found} {s : State}
    (h : Ongoing w o dryRun start index s) (hthere : AllThere start w.cwd found)
    (hfresh : ∀ t ∈ targets start w.cwd found, s.store.get? t.loc = start.get? t.loc)
    (hnodup : ((targets start w.cwd found).map Target.loc).Nodup) :
    (visitAll w o dryRun s found).outcomes =
      s.outcomes ++ (targets start w.cwd found).map (Target.outcome w o index) ∧
    (visitAll w o dryRun s found).store =
      settleAll w o dryRun index s.store (targets start w.cwd found) := by
  induction found generalizing s with
  | nil => exact ⟨(List.append_nil _).symm, rfl⟩
  | cons f found ih =>
    have hrest : AllThere start w.cwd found := fun p hp => hthere p (List.mem_cons_of_mem _ hp)
    cases f with
    | nothing p =>
      -- Only told, so the state is the same in all that matters here.
      have htold : Ongoing w o dryRun start index (visit w o dryRun s (.nothing p)) :=
        ⟨h.shape, h.sameIndex, h.dry, h.changed⟩
      exact ih htold hrest hfresh hnodup
    | file p =>
      obtain ⟨loc, content, hfind⟩ := hthere p List.mem_cons_self
      have htargets : targets start w.cwd (.file p :: found) =
          ⟨p, loc, content⟩ :: targets start w.cwd found :=
        List.filterMap_cons_some (target?_of_find hfind)
      rw [htargets] at hfresh hnodup ⊢
      rw [List.map_cons, List.nodup_cons] at hnodup
      obtain ⟨now, _, hget, houtcomes, hstore, _⟩ := h.visitFile_spec hfind
      obtain ⟨_, _, _, hstart⟩ := Store.find_eq_ok_iff.mp hfind
      -- The visit sees the bytes of the start,
      have hnow : now = content := by
        have hsame := hfresh _ List.mem_cons_self
        rw [hget, hstart] at hsame
        simpa using hsame
      subst hnow
      -- and it does not touch the files to come, which are elsewhere.
      have hfresh' : ∀ t ∈ targets start w.cwd found,
          (visitFile w o dryRun s p).store.get? t.loc = start.get? t.loc := by
        intro t ht
        have hne : t.loc ≠ loc := by
          intro heq
          exact hnodup.1 (List.mem_map.mpr ⟨t, ht, heq⟩)
        rw [hstore, get?_settle_of_ne _ hne]
        exact hfresh t (List.mem_cons_of_mem _ ht)
      obtain ⟨hout, hfinal⟩ := ih (h.visitFile hfind) hrest hfresh' hnodup.2
      rw [visitAll_cons, visit_file]
      constructor
      · rw [hout, houtcomes, List.append_assoc]
        rfl
      · rw [hfinal, hstore]
        rfl

/-- Files that are not settled keep their content. -/
theorem get?_settleAll_of_notMem {ts : List Target} {store : Store} {loc : Location}
    (h : loc ∉ ts.map Target.loc) :
    (settleAll w o dryRun index store ts).get? loc = store.get? loc := by
  induction ts generalizing store with
  | nil => rfl
  | cons t ts ih =>
    rw [List.map_cons, List.mem_cons, not_or] at h
    rw [settleAll, List.foldl_cons, ← settleAll, ih h.2]
    exact get?_settle_of_ne _ h.1

/-- A file that is settled gets the content that it gets alone. -/
theorem get?_settleAll_of_mem {ts : List Target} {store : Store}
    (hnodup : (ts.map Target.loc).Nodup) {t : Target} (ht : t ∈ ts)
    (hget : store.get? t.loc = some (.file t.content)) :
    (settleAll w o false index store ts).get? t.loc =
      some (.file ((t.alone w o index).new.getD t.content)) := by
  induction ts generalizing store with
  | nil => cases ht
  | cons u ts ih =>
    rw [List.map_cons, List.nodup_cons] at hnodup
    rw [settleAll, List.foldl_cons, ← settleAll]
    rcases List.mem_cons.mp ht with rfl | hmem
    · -- Nothing after it is at its location.
      rw [get?_settleAll_of_notMem hnodup.1]
      exact Store.get?_update_self _ hget
    · -- What comes before it is elsewhere.
      have hne : t.loc ≠ u.loc := by
        intro heq
        exact hnodup.1 (List.mem_map.mpr ⟨t, hmem, heq⟩)
      apply ih hnodup.2 hmem
      rw [get?_settle_of_ne _ hne]
      exact hget

/-- Different files can be settled in any order. -/
theorem settleAll_perm {ts ts' : List Target} (h : ts.Perm ts')
    (hnodup : (ts.map Target.loc).Nodup) (store : Store) :
    settleAll w o dryRun index store ts' = settleAll w o dryRun index store ts := by
  refine (h.foldl_eq' ?_ store).symm
  intro t ht u hu st
  by_cases heq : t = u
  · rw [heq]
  · have hne : t.loc ≠ u.loc := fun hloc => heq (List.inj_on_of_nodup_map hnodup ht hu hloc)
    cases dryRun with
    | true => rfl
    | false => exact Store.update_comm st hne _ _

end

section
variable {w : Workspace} {store : Store} {ignored paths : List String} (hs : store.WellFormed)
  (hnodup : ((targets store w.cwd (collect store w.cwd ignored paths).found).map Target.loc).Nodup)
  (cache : Report.Cache) (o : Options) (dryRun : Bool)
include hs hnodup

/-- A batch that reaches no file twice gives back the outcomes that its files have alone. -/
theorem outcomes_of_returned {outcomes : List Outcome}
    (h : (run w store cache o dryRun ignored paths).returned = .ok outcomes) :
    outcomes = (targets store w.cwd (collect store w.cwd ignored paths).found).map
      (Target.outcome w o (indexFor cache store w.cwd o)) := by
  rw [← (run_returned_eq_ok_iff.mp h).2]
  exact (visitAll_targets (.initial store cache) (fun _ hp => collect_file hs hp)
    (fun _ _ => rfl) hnodup).1

/-- A batch that reaches no file twice leaves the store in which its files are settled alone. -/
theorem run_store_eq :
    (run w store cache o dryRun ignored paths).store =
      settleAll w o dryRun (indexFor cache store w.cwd o) store
        (targets store w.cwd (collect store w.cwd ignored paths).found) :=
  (visitAll_targets (.initial store cache) (fun _ hp => collect_file hs hp)
    (fun _ _ => rfl) hnodup).2

/-- A file that is visited has the outcome of its verdict, if outcomes are given back, and the
    bytes. -/
theorem run_file {p : Path} {loc : Location} {content : Bytes}
    (hp : .file p ∈ (collect store w.cwd ignored paths).found)
    (hfind : store.find w.cwd p = .ok (loc, .file content)) :
    (∀ outcomes, (run w store cache o false ignored paths).returned = .ok outcomes →
      ⟨p, (verdict w o (indexFor cache store w.cwd o) p content).status⟩ ∈ outcomes) ∧
    (run w store cache o false ignored paths).store.get? loc =
      some (.file ((verdict w o (indexFor cache store w.cwd o) p content).new.getD content)) := by
  obtain ⟨_, _, _, hget⟩ := Store.find_eq_ok_iff.mp hfind
  have ht : (⟨p, loc, content⟩ : Target) ∈
      targets store w.cwd (collect store w.cwd ignored paths).found :=
    List.mem_filterMap.mpr ⟨.file p, hp, target?_of_find hfind⟩
  refine ⟨?_, ?_⟩
  · intro outcomes houtcomes
    rw [outcomes_of_returned hs hnodup cache o false houtcomes]
    exact List.mem_map.mpr ⟨_, ht, rfl⟩
  · rw [run_store_eq hs hnodup]
    exact get?_settleAll_of_mem hnodup ht hget

/-- Paths in another order give back the same outcomes in another order and leave the same store,
    if none of them is a fault. -/
theorem run_perm {paths' : List String} (hperm : paths.Perm paths') {outcomes : List Outcome}
    (h : (run w store cache o dryRun ignored paths).returned = .ok outcomes) :
    (∃ outcomes', (run w store cache o dryRun ignored paths').returned = .ok outcomes' ∧
      outcomes'.Perm outcomes) ∧
    (run w store cache o dryRun ignored paths').store =
      (run w store cache o dryRun ignored paths).store := by
  have hnone := (run_returned_eq_ok_iff.mp h).1
  have hts : (targets store w.cwd (collect store w.cwd ignored paths').found).Perm
      (targets store w.cwd (collect store w.cwd ignored paths).found) :=
    ((collect_perm hperm).2 hnone).filterMap _
  have hnodup' : ((targets store w.cwd (collect store w.cwd ignored paths').found).map
      Target.loc).Nodup := (hts.map _).nodup_iff.mpr hnodup
  constructor
  · have h' := (@run_returned_eq_ok_iff w store cache o dryRun ignored paths' _).mpr
      ⟨(collect_perm hperm).1.mpr hnone, rfl⟩
    refine ⟨_, h', ?_⟩
    rw [outcomes_of_returned hs hnodup' cache o dryRun h',
      outcomes_of_returned hs hnodup cache o dryRun h]
    exact hts.map _
  · rw [run_store_eq hs hnodup, run_store_eq hs hnodup']
    exact settleAll_perm hts.symm hnodup store

end

/-- A batch that finds nothing leaves the store alone. -/
theorem run_store_of_found_nil {w : Workspace} {store : Store} {ignored paths : List String}
    (h : (collect store w.cwd ignored paths).found = []) (cache : Report.Cache) (o : Options)
    (dryRun : Bool) : (run w store cache o dryRun ignored paths).store = store := by
  rw [run_store, h, visitAll_nil]
  rfl

/-! ## Independence -/

/-- **Files of a batch are independent.** Let no file be reached twice, and let the cache be empty.
    Then each file that is visited and is a text gets the bytes that filling it in alone gives at
    the start, under the report of the start, and all other files keep their bytes. Unless a fault
    ended the search for files, one outcome is given back for each file that is visited: for a text
    what filling it in alone comes to, and for a file that is no text that it is unreadable. Paths
    in another order end in a fault as well, or they have the same outcomes in another order and
    leave the same store. -/
theorem run_each_file_alone (w : Workspace) (store : Store) (o : Options)
    (ignored paths paths' : List String) :
    let collected := collect store w.cwd ignored paths
    let reached := (targets store w.cwd collected.found).map Target.loc
    let final := run w store {} o false ignored paths
    let final' := run w store {} o false ignored paths'
    store.WellFormed →
    reached.Nodup →
    (∀ f, collected.fault = some f → final.returned = .error f) ∧
    (collected.fault = none → ∃ outcomes, final.returned = .ok outcomes ∧
      outcomes.map Outcome.path = collected.found.filterMap Found.file?) ∧
    (∀ p, .file p ∈ collected.found → ∃ loc ∈ reached, ∃ content,
      store.find w.cwd p = .ok (loc, .file content) ∧
      (∀ source, content = Utf8.ofString source →
        let alone := Verdict.ofFilled (fillFile w store {} p.text source o none).filled
        (∀ outcomes, final.returned = .ok outcomes → ⟨p, alone.status⟩ ∈ outcomes) ∧
        final.store.get? loc = some (.file (alone.new.getD content))) ∧
      (¬ Utf8.IsText content →
        (∀ outcomes, final.returned = .ok outcomes → ⟨p, .unreadable⟩ ∈ outcomes) ∧
        final.store.get? loc = some (.file content))) ∧
    (∀ loc, loc ∉ reached → final.store.get? loc = store.get? loc) ∧
    (paths.Perm paths' →
      ((∃ f, final'.returned = .error f) ↔ ∃ f, final.returned = .error f) ∧
      ∀ outcomes, final.returned = .ok outcomes →
        (∃ outcomes', final'.returned = .ok outcomes' ∧ outcomes'.Perm outcomes) ∧
        final'.store = final.store) := by
  intro collected reached final final' hs hnodup
  refine ⟨fun f hf => run_returned_eq_error_iff.mpr hf, ?_, ?_, ?_, ?_⟩
  · intro hnone
    have hreturned : final.returned = .ok _ := run_returned_eq_ok_iff.mpr ⟨hnone, rfl⟩
    exact ⟨_, hreturned, map_path_of_returned hreturned⟩
  · intro p hp
    obtain ⟨loc, content, hfind⟩ := collect_file hs hp
    have hreached : loc ∈ reached :=
      List.mem_map.mpr ⟨_, List.mem_filterMap.mpr ⟨.file p, hp, target?_of_find hfind⟩, rfl⟩
    have hfile := run_file hs hnodup {} o hp hfind
    refine ⟨loc, hreached, content, hfind, ?_, ?_⟩
    · rintro source rfl
      rw [verdict_of_text] at hfile
      exact hfile
    · intro hno
      rw [verdict_of_not_text hno] at hfile
      exact hfile
  · intro loc hloc
    rw [show final.store = _ from run_store_eq hs hnodup {} o false]
    exact get?_settleAll_of_notMem hloc
  · intro hperm
    refine ⟨?_, fun outcomes h => run_perm hs hnodup {} o false hperm h⟩
    simp only [final, final', run_returned_eq_error_iff, ← Option.ne_none_iff_exists']
    exact not_congr (collect_perm hperm).1

end Batch

namespace Sample

/-- The files of the project, the report among them. -/
def listed : List String := ["Foo.js", "errors.json", "bad.js"]

/-- The same files in another order. -/
def relisted : List String := ["bad.js", "Foo.js", "errors.json"]

end Sample

namespace Batch

/-- The files of the project in two orders. The statement has no abbreviations, because they would
    make the kernel compute the runs. -/
theorem run_each_file_alone_project :
    Sample.project.WellFormed ∧
    ((targets Sample.project Sample.workspace.cwd
      (collect Sample.project Sample.workspace.cwd [] Sample.listed).found).map
        Target.loc).Nodup ∧
    (∃ outcomes, (run Sample.workspace Sample.project {} Sample.options false []
        Sample.listed).returned = .ok outcomes ∧
      outcomes.map Outcome.path = Sample.listed.map Path.ofString ∧
      ⟨.ofString "Foo.js", .filled 1⟩ ∈ outcomes) ∧
    (run Sample.workspace Sample.project {} Sample.options false [] Sample.listed).store.get?
        ["Foo.js"] = some (.file (Utf8.ofString Sample.tupleFilled)) ∧
    (run Sample.workspace Sample.project {} Sample.options false [] Sample.relisted).store =
      (run Sample.workspace Sample.project {} Sample.options false [] Sample.listed).store := by
  have hs : Sample.project.WellFormed := by decide +kernel
  have hnodup : ((targets Sample.project Sample.workspace.cwd
      (collect Sample.project Sample.workspace.cwd [] Sample.listed).found).map
        Target.loc).Nodup := by decide +kernel
  obtain ⟨_, hreturns, halone, _, hperm⟩ := run_each_file_alone Sample.workspace Sample.project
    Sample.options [] Sample.listed Sample.relisted hs hnodup
  obtain ⟨outcomes, houtcomes, hpaths⟩ := hreturns (by decide +kernel)
  obtain ⟨loc, _, content, hfind, htext, _⟩ := halone (.ofString "Foo.js") (by decide +kernel)
  cases find_project.symm.trans hfind
  have hfoo := htext Sample.tupleSource rfl
  rw [← verdict_of_text, verdict_project] at hfoo
  refine ⟨hs, hnodup, ⟨outcomes, houtcomes, ?_, hfoo.1 outcomes houtcomes⟩, hfoo.2, ?_⟩
  · exact hpaths.trans (by decide +kernel)
  · exact ((hperm (by decide +kernel)).2 outcomes houtcomes).2

/-- **With a path that is too long the order matters.** Behind a file it comes too late, and the
    file has been filled in; before the file it keeps the file from being visited. -/
theorem run_order_matters :
    Sample.project.WellFormed ∧
    ["Foo.js", Sample.tooLong].Perm [Sample.tooLong, "Foo.js"] ∧
    ((targets Sample.project Sample.workspace.cwd (collect Sample.project Sample.workspace.cwd []
      ["Foo.js", Sample.tooLong]).found).map Target.loc).Nodup ∧
    (run Sample.workspace Sample.project {} Sample.options false []
      ["Foo.js", Sample.tooLong]).store.get? ["Foo.js"] =
      some (.file (Utf8.ofString "type T = [Foo<any>, Bar, Baz]; // @flow")) ∧
    (run Sample.workspace Sample.project {} Sample.options false []
      [Sample.tooLong, "Foo.js"]).store.get? ["Foo.js"] =
      some (.file (Utf8.ofString "type T = [Foo, Bar, Baz]; // @flow")) := by
  have hs : Sample.project.WellFormed := by decide +kernel
  have hfind : Sample.project.find Sample.workspace.cwd (.ofString "Foo.js") =
      .ok (["Foo.js"], .file (Utf8.ofString Sample.tupleSource)) := find_project
  have hget : Sample.project.get? ["Foo.js"] =
      some (.file (Utf8.ofString Sample.tupleSource)) := rfl
  have hearly : (collect Sample.project Sample.workspace.cwd [] ["Foo.js", Sample.tooLong]).found =
      [.file (.ofString "Foo.js")] := by
    rw [collect_before_tooLong]
  have hlate : (collect Sample.project Sample.workspace.cwd [] [Sample.tooLong, "Foo.js"]).found =
      [] := by
    rw [collect_cons_of_fault expand_tooLong]
  have hnodup : ((targets Sample.project Sample.workspace.cwd
      (collect Sample.project Sample.workspace.cwd [] ["Foo.js", Sample.tooLong]).found).map
        Target.loc).Nodup := by
    rw [hearly, targets, List.filterMap_cons_some (target?_of_find hfind)]
    exact List.nodup_singleton _
  refine ⟨hs, .swap _ _ _, hnodup, ?_, ?_⟩
  · have hvisited : .file (.ofString "Foo.js") ∈ (collect Sample.project Sample.workspace.cwd []
        ["Foo.js", Sample.tooLong]).found := by
      rw [hearly]
      exact List.mem_cons_self
    have hbytes := (run_file hs hnodup {} Sample.options hvisited hfind).2
    rw [verdict_project, Option.getD_some] at hbytes
    exact hbytes
  · rw [run_store_of_found_nil hlate]
    exact hget

end Batch

end ArityFill
