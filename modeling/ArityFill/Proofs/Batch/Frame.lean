import ArityFill.Proofs.Batch.Visit
import ArityFill.Proofs.Fill.Again

/-! # What a batch may change

    A batch visits files, some of them perhaps more than once, and writes to them in between. The
    invariant `Ongoing` relates any state of it to the store at the start: files and folders are
    where they were, the index is the one of the start, and whatever file has other bytes now was
    filled in by a visit to a file that was admitted by the bytes that it had at the start. The
    last part survives later visits to the same file, which see bytes that the batch wrote itself:
    the first visit that changed the file still accounts for it.

    A path that is too long to be looked up ends the search for files. The files before it have been
    visited then, and perhaps changed, but no outcome is given back: `run_loses_outcomes`.
-/

namespace ArityFill

open Report (Index)

namespace Batch

/-- An outcome that accounts for new content at a location: a file was filled in there, and its
    content at the start was admitted. -/
def Accounts (w : Workspace) (o : Options) (start : Store) (index : Except Fault Index)
    (loc : Location) (outcome : Outcome) : Prop :=
  ∃ n source i, outcome.status = .filled n ∧ 1 ≤ n ∧
    start.find w.cwd outcome.path = .ok (loc, .file (Utf8.ofString source)) ∧
    index = .ok i ∧ Admitted w o i outcome.path.text source

/-- What holds of a batch at any time. -/
structure Ongoing (w : Workspace) (o : Options) (dryRun : Bool) (start : Store)
    (index : Except Fault Index) (s : State) : Prop where
  /-- Files and folders are where they were. -/
  shape : start.SameShape s.store
  /-- The index is that of the start. -/
  sameIndex : indexFor s.cache s.store w.cwd o = index
  /-- A dry run writes nothing. -/
  dry : dryRun = true → s.store = start
  /-- Some outcome accounts for each file that has changed. -/
  changed : ∀ loc, s.store.get? loc ≠ start.get? loc →
    ∃ outcome ∈ s.outcomes, Accounts w o start index loc outcome

/-- All files among what was found are there. -/
def AllThere (store : Store) (cwd : Location) (found : List Found) : Prop :=
  ∀ p, .file p ∈ found → ∃ loc content, store.find cwd p = .ok (loc, .file content)

section
variable {w : Workspace} {o : Options} {dryRun : Bool} {start : Store} {index : Except Fault Index}
  {s : State}

/-- A batch begins as its invariant says. -/
theorem Ongoing.initial (store : Store) (cache : Report.Cache) :
    Ongoing w o dryRun store (indexFor cache store w.cwd o) (.initial store cache) where
  shape := .refl store
  sameIndex := rfl
  dry _ := rfl
  changed _ h := absurd rfl h

/-- What a visit to a file does in terms of the start of the batch. -/
theorem Ongoing.visitFile_spec (h : Ongoing w o dryRun start index s) {p : Path} {loc : Location}
    {content : Bytes} (hfind : start.find w.cwd p = .ok (loc, .file content)) :
    ∃ now, s.store.find w.cwd p = .ok (loc, .file now) ∧ s.store.get? loc = some (.file now) ∧
      (visitFile w o dryRun s p).outcomes =
        s.outcomes ++ [⟨p, (verdict w o index p now).status⟩] ∧
      (visitFile w o dryRun s p).store = settle dryRun s.store loc (verdict w o index p now) ∧
      indexFor (visitFile w o dryRun s p).cache (visitFile w o dryRun s p).store w.cwd o =
        index := by
  obtain ⟨now, hget, hnow⟩ := h.shape.find_file hfind
  exact ⟨now, hnow, hget, visitFile_of_verdict h.sameIndex hnow rfl⟩

/-- A visit to a file that is there keeps the invariant. -/
theorem Ongoing.visitFile (h : Ongoing w o dryRun start index s) {p : Path} {loc : Location}
    {content : Bytes} (hfind : start.find w.cwd p = .ok (loc, .file content)) :
    Ongoing w o dryRun start index (visitFile w o dryRun s p) := by
  obtain ⟨now, hnow, hget, houtcomes, hstore, hindex⟩ := h.visitFile_spec hfind
  refine ⟨?_, hindex, ?_, ?_⟩
  · rw [hstore]
    exact h.shape.trans (sameShape_settle dryRun s.store loc _)
  · intro hdry
    rw [hstore, settle, if_pos hdry]
    exact h.dry hdry
  · intro l hl
    rw [houtcomes]
    by_cases hbefore : s.store.get? l = start.get? l
    · -- This visit changed the file, so it saw the bytes of the start.
      rw [hstore, ← hbefore] at hl
      obtain ⟨rfl, bytes, hnew⟩ := settle_get?_ne hl
      obtain ⟨_, _, _, hstart⟩ := Store.find_eq_ok_iff.mp hfind
      have hsame : now = content := by
        rw [hget, hstart] at hbefore
        simpa using hbefore
      subst hsame
      obtain ⟨n, source, i, hstatus, hn, rfl, hi, hadmitted⟩ := verdict_new hnew
      exact ⟨_, List.mem_append_right _ List.mem_cons_self,
        n, source, i, hstatus, hn, hfind, hi, hadmitted⟩
    · -- An earlier visit accounts for the file already.
      obtain ⟨outcome, hmem, haccounts⟩ := h.changed l hbefore
      exact ⟨outcome, List.mem_append_left _ hmem, haccounts⟩

/-- Looking at what was found keeps the invariant. -/
theorem Ongoing.visit (h : Ongoing w o dryRun start index s) {f : Found}
    (hthere : AllThere start w.cwd [f]) :
    Ongoing w o dryRun start index (visit w o dryRun s f) := by
  cases f with
  | file p =>
    obtain ⟨loc, content, hfind⟩ := hthere p List.mem_cons_self
    exact h.visitFile hfind
  | nothing p => exact ⟨h.shape, h.sameIndex, h.dry, h.changed⟩

/-- A whole batch keeps the invariant. -/
theorem Ongoing.visitAll (h : Ongoing w o dryRun start index s) {found : List Found}
    (hthere : AllThere start w.cwd found) :
    Ongoing w o dryRun start index (visitAll w o dryRun s found) := by
  induction found generalizing s with
  | nil => exact h
  | cons f found ih =>
    refine ih (h.visit ?_) fun p hp => hthere p (List.mem_cons_of_mem _ hp)
    intro p hp
    exact hthere p (List.mem_cons.mpr (.inl (List.mem_singleton.mp hp)))

end

/-! ## One outcome for each file -/

/-- A visit adds one outcome for a file, and none else. -/
theorem visit_outcomes (w : Workspace) (o : Options) (dryRun : Bool) (s : State) (f : Found) :
    ∃ rest, (visit w o dryRun s f).outcomes = s.outcomes ++ rest ∧
      rest.map Outcome.path = f.file?.toList := by
  cases f with
  | nothing p => exact ⟨[], (List.append_nil _).symm, rfl⟩
  | file p =>
    simp only [visit, visitFile]
    split
    · exact ⟨[⟨p, .unreadable⟩], rfl, rfl⟩
    · split
      · exact ⟨[⟨p, .unchanged⟩], rfl, rfl⟩
      · exact ⟨[⟨p, .filled _⟩], rfl, rfl⟩

/-- A batch adds the outcomes of the files in their order. -/
theorem visitAll_outcomes (w : Workspace) (o : Options) (dryRun : Bool) (found : List Found)
    (s : State) :
    ∃ rest, (visitAll w o dryRun s found).outcomes = s.outcomes ++ rest ∧
      rest.map Outcome.path = found.filterMap Found.file? := by
  induction found generalizing s with
  | nil => exact ⟨[], (List.append_nil _).symm, rfl⟩
  | cons f found ih =>
    obtain ⟨first, hfirst, hpath⟩ := visit_outcomes w o dryRun s f
    obtain ⟨rest, hrest, hpaths⟩ := ih (visit w o dryRun s f)
    refine ⟨first ++ rest, ?_, ?_⟩
    · show (visitAll w o dryRun (visit w o dryRun s f) found).outcomes = _
      rw [hrest, hfirst, List.append_assoc]
    · rw [List.map_append, hpath, hpaths]
      cases f <;> rfl

theorem mem_of_mem_filterMap_file? {found : List Found} {p : Path}
    (h : p ∈ found.filterMap Found.file?) : .file p ∈ found := by
  obtain ⟨f, hf, hp⟩ := List.mem_filterMap.mp h
  cases f with
  | nothing q => cases hp
  | file q =>
    cases hp
    exact hf

/-! ## What is given back -/

section
variable {w : Workspace} {store : Store} {cache : Report.Cache} {o : Options} {dryRun : Bool}
  {ignored paths : List String}

theorem run_store :
    (run w store cache o dryRun ignored paths).store =
      (visitAll w o dryRun (.initial store cache)
        (collect store w.cwd ignored paths).found).store := rfl

theorem run_returned_eq_error_iff {f : Fault} :
    (run w store cache o dryRun ignored paths).returned = .error f ↔
      (collect store w.cwd ignored paths).fault = some f := by
  simp only [run, State.finish]
  cases (collect store w.cwd ignored paths).fault <;> simp

theorem run_returned_eq_ok_iff {outcomes : List Outcome} :
    (run w store cache o dryRun ignored paths).returned = .ok outcomes ↔
      (collect store w.cwd ignored paths).fault = none ∧
      (visitAll w o dryRun (.initial store cache)
        (collect store w.cwd ignored paths).found).outcomes = outcomes := by
  simp only [run, State.finish]
  cases (collect store w.cwd ignored paths).fault <;> simp

/-- What is given back is one outcome for each file that was found. -/
theorem map_path_of_returned {outcomes : List Outcome}
    (h : (run w store cache o dryRun ignored paths).returned = .ok outcomes) :
    outcomes.map Outcome.path =
      (collect store w.cwd ignored paths).found.filterMap Found.file? := by
  obtain ⟨rest, hrest, hpaths⟩ := visitAll_outcomes w o dryRun
    (collect store w.cwd ignored paths).found (.initial store cache)
  rw [← (run_returned_eq_ok_iff.mp h).2, hrest, ← hpaths]
  rfl

end

/-! ## The whole batch -/

/-- **What a batch tells and what it changes.** If a path is too long to be looked up, the search
    ends there, and nothing is given back but that fault. Else each file that is found has one
    outcome, in the order of the search, which would find the same at any time during the batch; a
    file is unreadable exactly if its bytes are no text when it is visited. In any case a dry run
    changes nothing, and files and folders stay where they are. Whatever file has new bytes in the
    end was found, and the bytes that it had at the start were a text that was admitted under the
    index of the start; its outcome, if outcomes are given back, tells how often it was filled in.
    -/
theorem run_changes_only_admitted (w : Workspace) (store : Store) (cache : Report.Cache)
    (o : Options) (dryRun : Bool) (ignored paths : List String) :
    let collected := collect store w.cwd ignored paths
    let final := run w store cache o dryRun ignored paths
    store.WellFormed →
    (∀ f, collected.fault = some f → f = .nameTooLong ∧ final.returned = .error f) ∧
    (collected.fault = none → ∃ outcomes, final.returned = .ok outcomes ∧
      outcomes.map Outcome.path = collected.found.filterMap Found.file?) ∧
    (∀ before p after, collected.found = before ++ .file p :: after →
      let s := visitAll w o dryRun (.initial store cache) before
      collect s.store w.cwd ignored paths = collected ∧
      ∃ content, s.store.read w.cwd p = .ok content ∧
        ∀ outcomes, final.returned = .ok outcomes →
          ∃ status rest, outcomes = s.outcomes ++ ⟨p, status⟩ :: rest ∧
            (status = .unreadable ↔ ¬ Utf8.IsText content)) ∧
    (dryRun = true → final.store = store) ∧
    store.SameShape final.store ∧
    ∀ loc, final.store.get? loc ≠ store.get? loc →
      ∃ p n source index, .file p ∈ collected.found ∧ 1 ≤ n ∧
        store.find w.cwd p = .ok (loc, .file (Utf8.ofString source)) ∧
        indexFor cache store w.cwd o = .ok index ∧
        Admitted w o index p.text source ∧
        ∀ outcomes, final.returned = .ok outcomes → ⟨p, .filled n⟩ ∈ outcomes := by
  intro collected final hs
  let last := visitAll w o dryRun (.initial store cache) collected.found
  have hthere : AllThere store w.cwd collected.found := fun p hp => collect_file hs hp
  have hinitial := @Ongoing.initial w o dryRun store cache
  have hlast : Ongoing w o dryRun store _ last := hinitial.visitAll hthere
  refine ⟨?_, ?_, ?_, hlast.dry, hlast.shape, ?_⟩
  · intro f hf
    exact ⟨eq_nameTooLong_of_collect_fault hf, run_returned_eq_error_iff.mpr hf⟩
  · intro hnone
    have hreturned : final.returned = .ok last.outcomes :=
      run_returned_eq_ok_iff.mpr ⟨hnone, rfl⟩
    exact ⟨last.outcomes, hreturned, map_path_of_returned hreturned⟩
  · intro before p after hsplit s
    have hbefore : AllThere store w.cwd before := fun q hq =>
      hthere q (by rw [hsplit]; exact List.mem_append_left _ hq)
    have hs' : Ongoing w o dryRun store _ s := hinitial.visitAll hbefore
    refine ⟨collect_of_sameShape hs'.shape w.cwd ignored paths, ?_⟩
    obtain ⟨loc, content, hfind⟩ := hthere p (by rw [hsplit]; simp)
    obtain ⟨now, hnow, _, hout, _⟩ := hs'.visitFile_spec hfind
    refine ⟨now, by simp only [Store.read, hnow], ?_⟩
    intro outcomes houtcomes
    obtain ⟨rest, hrest, _⟩ := visitAll_outcomes w o dryRun after (visitFile w o dryRun s p)
    let v := verdict w o (indexFor cache store w.cwd o) p now
    refine ⟨v.status, rest, ?_, verdict_unreadable_iff⟩
    calc outcomes
        = last.outcomes := (run_returned_eq_ok_iff.mp houtcomes).2.symm
      _ = (visitAll w o dryRun (.initial store cache) (before ++ .file p :: after)).outcomes := by
          rw [← hsplit]
      _ = (visitAll w o dryRun (visitFile w o dryRun s p) after).outcomes := by
          rw [visitAll_append, visitAll_cons, visit_file]
      _ = _ := by rw [hrest, hout, List.append_assoc, List.singleton_append]
  · intro loc hloc
    obtain ⟨outcome, hmem, n, source, index, hstatus, hn, hfind, hindex, hadmitted⟩ :=
      hlast.changed loc hloc
    -- The outcome that accounts for the file is that of a file that was found.
    obtain ⟨rest, hrest, hpaths⟩ := visitAll_outcomes w o dryRun collected.found
      (.initial store cache)
    have hfound : outcome.path ∈ collected.found.filterMap Found.file? := by
      rw [← hpaths]
      rw [show last.outcomes = [] ++ rest from hrest, List.nil_append] at hmem
      exact List.mem_map.mpr ⟨outcome, hmem, rfl⟩
    refine ⟨outcome.path, n, source, index, mem_of_mem_filterMap_file? hfound, hn, hfind, hindex,
      hadmitted, ?_⟩
    intro outcomes houtcomes
    rw [← (run_returned_eq_ok_iff.mp houtcomes).2, ← hstatus]
    exact hmem

end Batch

namespace Sample

/-- A report with one error about the tuple of three names. -/
def report : String :=
  "\x7b\"errors\":[\x7b\"message\":[\x7b\"path\":\"/repo/Foo.js\",\"loc\":\x7b\"start\":" ++
  "\x7b\"offset\":10\x7d,\"end\":\x7b\"offset\":13\x7d\x7d\x7d," ++
  "\x7b\"descr\":\"Application of polymorphic type needs <list of 1 argument>\"\x7d]\x7d]\x7d"

/-- A report, the file that it is about, and a file that is no text. -/
def project : Store :=
  ⟨[(["Foo.js"], Utf8.ofString tupleSource), (["bad.js"], [0xff]),
    (["errors.json"], Utf8.ofString report)], []⟩

/-- The root as the current directory, and a parser that knows one file. -/
def workspace : Workspace := ⟨[], fun _ _ => tupleTree⟩

/-- The root as the current directory, and a parser that knows the file of the project before and
    after it is filled in. -/
def rereading : Workspace :=
  ⟨[], tupleParser (tupleAlias (appliedOnce 10) (typeName 20 23 none) (typeName 25 28 none))⟩

/-- The file of the project after it is filled in. -/
def tupleFilled : String := "type T = [Foo<any>, Bar, Baz]; // @flow"

/-- The options that name the report. -/
def options : Options := { errors := some "errors.json" }

/-- A name of some length. -/
def nameOf (n : Nat) : String := String.ofList (List.replicate n 'x')

theorem toList_nameOf (n : Nat) : (nameOf n).toList = List.replicate n 'x' :=
  String.toList_ofList

theorem utf8ByteSize_nameOf (n : Nat) : (nameOf n).utf8ByteSize = n := by
  induction n with
  | zero => rfl
  | succ n ih =>
    have hpush : nameOf (n + 1) = (nameOf n).push 'x' := by
      apply String.toList_injective
      simp [toList_nameOf, List.replicate_succ']
    rw [hpush, String.utf8ByteSize_push, ih]
    rfl

theorem ofString_nameOf (n : Nat) :
    Path.ofString (nameOf (n + 2)) = ⟨.here, [nameOf (n + 2)]⟩ := by
  have hslash : '/' ∉ List.replicate (n + 2) 'x' := by simp
  rw [Path.ofString, toList_nameOf, Path.partsOf, Text.pieces_of_notMem hslash]
  simp [Path.anchorOf, List.replicate_succ, nameOf]

/-- A component that no file can have. -/
def tooLong : String := nameOf 300

end Sample

namespace Batch

/-- The index of the report of the project. -/
theorem indexFor_project :
    indexFor {} Sample.project [] Sample.options =
      .ok (Sample.indexOf [Sample.errorFrom 10 1]) := by
  have hfind : Sample.project.find [] (.ofString "errors.json") =
      .ok (["errors.json"], .file (Utf8.ofString Sample.report)) := rfl
  have hread : Sample.project.readText [] (.ofString "errors.json") = .ok Sample.report := by
    rw [readText_of_find hfind, Utf8.toString?_ofString]
  exact indexFor_of_report rfl (by decide) hread (by decide +kernel)

/-- The verdict about the file that the report is about, whatever it holds. -/
theorem verdict_of_fill_project {parser : Parser} {source : String} {filled : Filled}
    (hfill : (fill (Dialect.backend ⟨.tsx, Sample.options.placeholder⟩ parser) [] "Foo.js" source
      (Sample.indexOf [Sample.errorFrom 10 1]) Sample.options).1 = .ok filled) :
    verdict ⟨[], parser⟩ Sample.options (indexFor {} Sample.project [] Sample.options)
      (.ofString "Foo.js") (Utf8.ofString source) = .ofFilled filled := by
  have hname : (Path.ofString "Foo.js").text = "Foo.js" := by decide +kernel
  have hrecords : (Sample.indexOf [Sample.errorFrom 10 1]).hasRecords [] "Foo.js" = .ok true := by
    decide +kernel
  have hgrammar : Grammar.resolve Sample.options.language (some (Path.ofString "Foo.js")) =
      .ok .tsx := by
    decide +kernel
  exact verdict_of_fill hname indexFor_project (fillWithIndex_of_fill hrecords hgrammar hfill)

/-- The verdict about that file as it is, if the parser knows it. -/
theorem verdict_of_parse_project {parser : Parser}
    (hparse : parser .tsx (Source.mask (Utf8.ofString Sample.tupleSource)) = Sample.tupleTree) :
    verdict ⟨[], parser⟩ Sample.options (indexFor {} Sample.project [] Sample.options)
      (.ofString "Foo.js") (Utf8.ofString Sample.tupleSource) =
    ⟨.filled 1, some (Utf8.ofString Sample.tupleFilled)⟩ := by
  have hspreads : Source.typeSpreads Sample.tupleTree = [] :=
    List.isEmpty_iff.mp (by decide +kernel)
  have hd : Document.ofSource (fun _ _ => Sample.tupleTree) ⟨.tsx, "any"⟩ Sample.tupleSource =
      Document.ofSource parser ⟨.tsx, "any"⟩ Sample.tupleSource := by
    simp only [Document.ofSource, Source.parse, hparse, hspreads]
  have hfill : (fill (Dialect.backend ⟨.tsx, "any"⟩ parser) [] "Foo.js" Sample.tupleSource
      (Sample.indexOf [Sample.errorFrom 10 1]) Sample.options).1 =
      .ok ⟨some Sample.tupleFilled, 1⟩ :=
    fill_eq_some [Sample.errorFrom 10 1] hd (by decide +kernel) (by decide +kernel)
      (by decide +kernel) (by decide +kernel) (by decide) (by decide +kernel) (by decide +kernel)
      (by decide +kernel)
  exact verdict_of_fill_project hfill

theorem verdict_project :
    verdict Sample.workspace Sample.options
      (indexFor {} Sample.project Sample.workspace.cwd Sample.options) (.ofString "Foo.js")
      (Utf8.ofString Sample.tupleSource) =
    ⟨.filled 1, some (Utf8.ofString Sample.tupleFilled)⟩ :=
  verdict_of_parse_project rfl

theorem find_tooLong :
    Sample.project.find Sample.workspace.cwd (.ofString Sample.tooLong) = .error .nameTooLong := by
  have hsize : Sample.tooLong.utf8ByteSize = 300 := Sample.utf8ByteSize_nameOf 300
  have hnull : Path.hasNull Sample.tooLong = false := by
    rw [Path.hasNull, Sample.tooLong, Sample.toList_nameOf]
    decide +kernel
  have hpath : Path.ofString Sample.tooLong = ⟨.here, [Sample.tooLong]⟩ :=
    Sample.ofString_nameOf 298
  rw [hpath]
  exact Store.find_of_long_part rfl hnull (by rw [hsize]; decide) (by rw [hsize]; decide)

theorem expand_tooLong :
    expand Sample.project Sample.workspace.cwd [] Sample.tooLong = ⟨[], some .nameTooLong⟩ :=
  expand_of_find_tooLong find_tooLong

/-- At first the file of the project is filled in. -/
theorem verdict_rereading :
    verdict Sample.rereading Sample.options
      (indexFor {} Sample.project Sample.rereading.cwd Sample.options) (.ofString "Foo.js")
      (Utf8.ofString Sample.tupleSource) =
    ⟨.filled 1, some (Utf8.ofString Sample.tupleFilled)⟩ :=
  verdict_of_parse_project (if_pos (by decide +kernel))

/-- Then no error is about an open reference any more. -/
theorem verdict_rereading_again :
    verdict Sample.rereading Sample.options
      (indexFor {} Sample.project Sample.rereading.cwd Sample.options) (.ofString "Foo.js")
      (Utf8.ofString Sample.tupleFilled) = ⟨.unchanged, none⟩ := by
  let d := Document.ofSource Sample.rereading.parser ⟨.tsx, "any"⟩ Sample.tupleFilled
  have haligned : d.Aligned := by decide +kernel
  have hnames : ∀ n ∈ d.references, d.NameReadable n := fun n hn _ _ =>
    Document.nameOf?_of_aligned haligned (Document.mem_walk_of_mem_references hn)
  have hnone : d.selected [Sample.errorFrom 10 1] = [] :=
    List.isEmpty_iff.mp (by decide +kernel)
  have hfill : (fill (Dialect.backend ⟨.tsx, "any"⟩ Sample.rereading.parser) [] "Foo.js"
      Sample.tupleFilled (Sample.indexOf [Sample.errorFrom 10 1]) Sample.options).1 =
      .ok .unchanged := by
    have herrors : (Sample.indexOf [Sample.errorFrom 10 1]).recordsFor [] "Foo.js" =
        .ok [Sample.errorFrom 10 1] := by
      decide +kernel
    rw [fill_of_eligible (by decide +kernel) herrors]
    exact fillDocument_eq_unchanged_iff.mpr ⟨hnames, hnone⟩
  exact verdict_of_fill_project hfill

theorem find_project :
    Sample.project.find [] (.ofString "Foo.js") =
      .ok (["Foo.js"], .file (Utf8.ofString Sample.tupleSource)) := rfl

/-- The visits to the files of the project, one of which is visited twice: the first visit fills it
    in, and the second one finds nothing left to do. -/
theorem visitAll_project :
    (visitAll Sample.rereading Sample.options false (.initial Sample.project {})
      [.file (.ofString "Foo.js"), .file (.ofString "bad.js"), .file (.ofString "Foo.js"),
        .nothing (.ofString "gone.js")]).outcomes =
      [⟨.ofString "Foo.js", .filled 1⟩, ⟨.ofString "bad.js", .unreadable⟩,
        ⟨.ofString "Foo.js", .unchanged⟩] ∧
    (visitAll Sample.rereading Sample.options false (.initial Sample.project {})
      [.file (.ofString "Foo.js"), .file (.ofString "bad.js"), .file (.ofString "Foo.js"),
        .nothing (.ofString "gone.js")]).store =
      Sample.project.overwrite ["Foo.js"] (Utf8.ofString Sample.tupleFilled) := by
  rw [visitAll_cons, visitAll_cons, visitAll_cons, visitAll_cons, visitAll_nil,
    visit_nothing_outcomes, visit_nothing_store, visit_file, visit_file, visit_file]
  -- Each visit is put down to its verdict, and then only the state that it left matters.
  obtain ⟨hout, hstore, hindex⟩ := @visitFile_of_verdict Sample.rereading Sample.options false
    (.initial Sample.project {}) _ _ _ _ _ rfl find_project verdict_rereading
  generalize visitFile Sample.rereading Sample.options false (.initial Sample.project {})
    (.ofString "Foo.js") = first at *
  have hbad : first.store.find [] (.ofString "bad.js") = .ok (["bad.js"], .file [0xff]) := by
    rw [hstore]
    rfl
  obtain ⟨hout', hstore', hindex'⟩ := @visitFile_of_verdict Sample.rereading Sample.options false
    first _ _ _ _ _ hindex hbad (verdict_of_not_text (by decide +kernel))
  generalize visitFile Sample.rereading Sample.options false first (.ofString "bad.js") =
    second at *
  have hfoo : second.store.find [] (.ofString "Foo.js") =
      .ok (["Foo.js"], .file (Utf8.ofString Sample.tupleFilled)) := by
    rw [hstore', hstore]
    rfl
  obtain ⟨hout'', hstore'', _⟩ := @visitFile_of_verdict Sample.rereading Sample.options false
    second _ _ _ _ _ hindex' hfoo verdict_rereading_again
  rw [hout'', hstore'', hout', hstore', hout, hstore]
  simp only [State.initial, List.nil_append, List.cons_append, settle, Store.update,
    Bool.false_eq_true, if_false, and_self]

/-- The files of the project, one of them listed twice, and a path where nothing is. -/
theorem run_changes_only_admitted_project :
    Sample.project.WellFormed ∧
    (run Sample.rereading Sample.project {} Sample.options false []
      ["Foo.js", "bad.js", "Foo.js", "gone.js"]).returned =
      .ok [⟨.ofString "Foo.js", .filled 1⟩, ⟨.ofString "bad.js", .unreadable⟩,
        ⟨.ofString "Foo.js", .unchanged⟩] ∧
    (run Sample.rereading Sample.project {} Sample.options false []
      ["Foo.js", "bad.js", "Foo.js", "gone.js"]).store.get? ["Foo.js"] =
      some (.file (Utf8.ofString Sample.tupleFilled)) ∧
    (run Sample.rereading Sample.project {} Sample.options false []
      ["Foo.js", "bad.js", "Foo.js", "gone.js"]).store.get? ["bad.js"] =
      Sample.project.get? ["bad.js"] := by
  have hs : Sample.project.WellFormed := by decide +kernel
  have hcollect : collect Sample.project Sample.rereading.cwd []
      ["Foo.js", "bad.js", "Foo.js", "gone.js"] =
      ⟨[.file (.ofString "Foo.js"), .file (.ofString "bad.js"), .file (.ofString "Foo.js"),
        .nothing (.ofString "gone.js")], none⟩ := by
    decide +kernel
  obtain ⟨hout, hstore⟩ := visitAll_project
  obtain ⟨_, hreturns, _, _, _, hchanged⟩ := run_changes_only_admitted Sample.rereading
    Sample.project {} Sample.options false [] ["Foo.js", "bad.js", "Foo.js", "gone.js"] hs
  refine ⟨hs, ?_, ?_, ?_⟩
  · obtain ⟨outcomes, houtcomes, _⟩ := hreturns (by rw [hcollect])
    rw [houtcomes, ← (run_returned_eq_ok_iff.mp houtcomes).2, hcollect, hout]
  · rw [run_store, hcollect, hstore]
    exact Store.get?_overwrite_self _ rfl
  · by_contra hne
    obtain ⟨_, _, source, _, _, _, hfind, _⟩ := hchanged ["bad.js"] hne
    obtain ⟨_, _, _, hget⟩ := Store.find_eq_ok_iff.mp hfind
    have hbad : Sample.project.get? ["bad.js"] = some (.file [0xff]) := by decide +kernel
    rw [hbad, Option.some.injEq, Entry.file.injEq] at hget
    have htext := Utf8.isText_ofString source
    rw [← hget] at htext
    exact absurd htext (by decide +kernel)

/-- A file before a path that is too long is found. -/
theorem collect_before_tooLong :
    collect Sample.project Sample.workspace.cwd [] ["Foo.js", Sample.tooLong] =
      ⟨[.file (.ofString "Foo.js")], some .nameTooLong⟩ := by
  have hfoo : expand Sample.project Sample.workspace.cwd [] "Foo.js" =
      ⟨[.file (.ofString "Foo.js")], none⟩ := expand_of_find_file find_project
  rw [collect_cons_of_no_fault hfoo, collect_cons_of_fault expand_tooLong]
  rfl

/-- **With a path that is too long the outcomes are lost.** The file before it has been found and
    filled in, but all that is given back is the fault. -/
theorem run_loses_outcomes :
    Sample.project.WellFormed ∧
    (collect Sample.project Sample.workspace.cwd [] ["Foo.js", Sample.tooLong]).found =
      [.file (.ofString "Foo.js")] ∧
    (run Sample.workspace Sample.project {} Sample.options false []
      ["Foo.js", Sample.tooLong]).store.get? ["Foo.js"] =
      some (.file (Utf8.ofString Sample.tupleFilled)) ∧
    (run Sample.workspace Sample.project {} Sample.options false []
      ["Foo.js", Sample.tooLong]).returned = .error .nameTooLong := by
  have hcollect := collect_before_tooLong
  obtain ⟨_, hstore, _⟩ := @visitFile_of_verdict Sample.workspace Sample.options false
    (.initial Sample.project {}) _ _ _ _ _ rfl find_project verdict_project
  refine ⟨by decide +kernel, by rw [hcollect], ?_, ?_⟩
  · rw [run_store, hcollect, visitAll_cons, visitAll_nil, visit_file, hstore]
    exact Store.get?_overwrite_self _ rfl
  · exact run_returned_eq_error_iff.mpr (by rw [hcollect])

end Batch

end ArityFill
