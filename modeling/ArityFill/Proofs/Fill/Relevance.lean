import ArityFill.Proofs.Fill.Again
import ArityFill.Proofs.Fill.File
import ArityFill.Proofs.Report.Index
import Mathlib.Data.List.Pairwise

/-! # What of a report matters to a file

    Two reports can differ in many ways and still come to the same for a file. All that filling in
    sees of a report is, for each place, how many arguments the first error about that place asks
    for, among the errors whose file has the key of the path. `wanted` is that number.

    Two runs with different reports are kept in step node by node: they hold different lists of
    errors, but find errors of the same arity at the places that the backend tells them, and so they
    go on to ask the same of it (`fillReference_congr`). Nothing has to be known about the backend.
    In the end `fillFile_sees_wanted` says that reports with the same wanted arguments give the same
    result, and that certain changes of a report (`SameFor`) leave the wanted arguments alone.
-/

namespace ArityFill

namespace Report

/-! ## What is wanted -/

/-- How many arguments some errors want at a place of a file: the first error about it decides. -/
def wanted (cwd : Location) (m : Matching) (path : String) (errors : List ArityError)
    (place : Place) : Option Nat :=
  ((errors.filter (concerns cwd m path)).find? fun e =>
    e.start = place.start ∧ e.stop = place.stop).map ArityError.arity

/-- Lists of entries that come to the same for a file: one is made from the other by changes that
    are of no concern to it. -/
inductive SameFor (cwd : Location) (m : Matching) (path : String) :
    List Json → List Json → Prop where
  /-- An entry that is malformed, or reports no arity error, is put in. -/
  | passed {before after : List Json} {entry : Json} (none : errorOf? entry = none) :
      SameFor cwd m path (before ++ after) (before ++ entry :: after)
  /-- An error about a file with another key is put in. -/
  | other {before after : List Json} {entry : Json} {e : ArityError}
      (some : errorOf? entry = some e) (key : Path.key cwd m e.path ≠ Path.key cwd m path) :
      SameFor cwd m path (before ++ after) (before ++ entry :: after)
  /-- An error is put in behind one about the same place of the file. -/
  | again {before after : List Json} {earlier entry : Json} {e e' : ArityError}
      (mem : earlier ∈ before) (first : errorOf? earlier = some e)
      (key : Path.key cwd m e.path = Path.key cwd m path) (second : errorOf? entry = some e')
      (start : e'.start = e.start) (stop : e'.stop = e.stop) :
      SameFor cwd m path (before ++ after) (before ++ entry :: after)
  /-- Entries are put in another order, of which no two are about the same place of the file. -/
  | reordered {before after block block' : List Json} (perm : block'.Perm block)
      (distinct : ((block.filterMap errorOf?).filter (concerns cwd m path)).Pairwise
        fun e e' => ¬ (e'.start = e.start ∧ e'.stop = e.stop)) :
      SameFor cwd m path (before ++ block ++ after) (before ++ block' ++ after)
  /-- Nothing is changed. -/
  | refl (entries : List Json) : SameFor cwd m path entries entries
  /-- A change is taken back. -/
  | symm {entries entries' : List Json} :
      SameFor cwd m path entries entries' → SameFor cwd m path entries' entries
  /-- One change follows another. -/
  | trans {first second third : List Json} : SameFor cwd m path first second →
      SameFor cwd m path second third → SameFor cwd m path first third

section
variable {cwd : Location} {m : Matching} {path : String}

/-- What a longer list of errors wants: what its first part wants, or else what the second does. -/
theorem wanted_append (first second : List ArityError) (place : Place) :
    wanted cwd m path (first ++ second) place =
      (wanted cwd m path first place).or (wanted cwd m path second place) := by
  unfold wanted
  rw [List.filter_append, List.find?_append, Option.map_or]

/-- An error that does not concern the file wants nothing of it. -/
theorem wanted_of_not_concerns {e : ArityError}
    (h : Path.key cwd m e.path ≠ Path.key cwd m path) (place : Place) :
    wanted cwd m path [e] place = none := by
  simp [wanted, concerns, h]

/-- An error can only want something at its own place. -/
theorem wanted_of_place_ne {e : ArityError} {place : Place}
    (h : ¬ (e.start = place.start ∧ e.stop = place.stop)) : wanted cwd m path [e] place = none := by
  unfold wanted
  rw [Option.map_eq_none_iff, List.find?_eq_none]
  intro e' he'
  rw [List.mem_singleton.mp (List.mem_filter.mp he').1]
  simpa using h

/-- An error that concerns the file makes something be wanted at its place. -/
theorem isSome_wanted_of_mem {errors : List ArityError} {e : ArityError} (hmem : e ∈ errors)
    (hkey : Path.key cwd m e.path = Path.key cwd m path) :
    (wanted cwd m path errors ⟨e.start, e.stop⟩).isSome = true := by
  unfold wanted
  rw [Option.isSome_map, List.find?_isSome]
  exact ⟨e, List.mem_filter.mpr ⟨hmem, by simpa [concerns] using hkey⟩, by simp⟩

/-- Something is wanted somewhere exactly if some error concerns the file. -/
theorem isEmpty_eq_of_wanted {errors errors' : List ArityError}
    (h : ∀ place, wanted cwd m path errors place = wanted cwd m path errors' place) :
    (errors.filter (concerns cwd m path)).isEmpty =
      (errors'.filter (concerns cwd m path)).isEmpty := by
  have hempty : ∀ {errors : List ArityError}, (errors.filter (concerns cwd m path)).isEmpty = true ↔
      ∀ place, wanted cwd m path errors place = none := by
    intro errors
    rw [List.isEmpty_iff]
    constructor
    · intro hnil place
      rw [wanted, hnil, List.find?_nil, Option.map_none]
    · intro hnone
      rw [List.filter_eq_nil_iff]
      intro e he hconcerns
      have hsome := isSome_wanted_of_mem he (of_decide_eq_true hconcerns)
      rw [hnone, Option.isSome_none] at hsome
      cases hsome
  -- Being empty is wanting nothing anywhere, on either side.
  rw [Bool.eq_iff_iff, hempty, hempty]
  exact forall_congr' fun place => by rw [h place]

/-- A search finds the same in any order of a list, if no two of its items are searched for. -/
theorem find?_of_perm {α : Type} {p : α → Bool} {as bs : List α} (hperm : bs.Perm as)
    (hone : as.Pairwise fun a b => ¬ (p a = true ∧ p b = true)) : bs.find? p = as.find? p := by
  have : Std.Symm fun a b => ¬ (p a = true ∧ p b = true) := ⟨fun _ _ h hba => h hba.symm⟩
  cases hfind : as.find? p with
  | none =>
    rw [List.find?_eq_none] at hfind ⊢
    intro b hb
    exact hfind b (hperm.mem_iff.mp hb)
  | some a =>
    have ha : a ∈ as := List.mem_of_find?_eq_some hfind
    have hpa : p a = true := List.find?_some hfind
    cases hfind' : bs.find? p with
    | none => exact absurd hpa (List.find?_eq_none.mp hfind' a (hperm.mem_iff.mpr ha))
    | some b =>
      have hb : b ∈ as := hperm.mem_iff.mp (List.mem_of_find?_eq_some hfind')
      by_contra hne
      have hba : b ≠ a := fun h => hne (congrArg some h)
      exact hone.forall hb ha hba ⟨List.find?_some hfind', hpa⟩

/-- Errors about places that all differ want the same in any order. -/
theorem wanted_of_perm {errors errors' : List ArityError} (hperm : errors'.Perm errors)
    (hdistinct : (errors.filter (concerns cwd m path)).Pairwise
      fun e e' => ¬ (e'.start = e.start ∧ e'.stop = e.stop)) (place : Place) :
    wanted cwd m path errors' place = wanted cwd m path errors place := by
  unfold wanted
  rw [find?_of_perm (hperm.filter _)]
  -- Two errors about the place would be about the same place.
  refine hdistinct.imp fun {e e'} hne => ?_
  rintro ⟨he, he'⟩
  rw [decide_eq_true_eq] at he he'
  exact hne ⟨he'.1.trans he.1.symm, he'.2.trans he.2.symm⟩

/-- The changes that are of no concern to a file leave alone what is wanted of it. -/
theorem SameFor.wanted_eq {entries entries' : List Json}
    (h : SameFor cwd m path entries entries') (place : Place) :
    wanted cwd m path (entries.filterMap errorOf?) place =
      wanted cwd m path (entries'.filterMap errorOf?) place := by
  induction h with
  | passed hnone => simp only [List.filterMap_append, List.filterMap_cons, hnone]
  | @other before after entry e hsome hkey =>
    rw [List.filterMap_append, List.filterMap_append, List.filterMap_cons_some hsome,
      ← List.singleton_append, wanted_append, wanted_append, wanted_append,
      wanted_of_not_concerns hkey, Option.none_or]
  | @again before after earlier entry e e' hmem hfirst hkey hsecond hstart hstop =>
    rw [List.filterMap_append, List.filterMap_append, List.filterMap_cons_some hsecond,
      ← List.singleton_append, wanted_append, wanted_append, wanted_append]
    by_cases hplace : e'.start = place.start ∧ e'.stop = place.stop
    · -- At its place the earlier error has decided already.
      have hdecided := @isSome_wanted_of_mem cwd m path _ _
        (List.mem_filterMap.mpr ⟨earlier, hmem, hfirst⟩) hkey
      rw [← hstart, ← hstop, hplace.1, hplace.2] at hdecided
      obtain ⟨arity, harity⟩ := Option.isSome_iff_exists.mp hdecided
      rw [show (⟨place.start, place.stop⟩ : Place) = place from rfl] at harity
      rw [harity, Option.some_or, Option.some_or]
    · rw [wanted_of_place_ne hplace, Option.none_or]
  | @reordered before after block block' hperm hdistinct =>
    simp only [List.filterMap_append, wanted_append]
    rw [wanted_of_perm (hperm.filterMap errorOf?) hdistinct]
  | refl => rfl
  | symm _ ih => exact ih.symm
  | trans _ _ ih ih' => exact ih.trans ih'

end

end Report

open Report (ArityError Index Place concerns wanted entriesIn errorOf? SameFor load_reportStore)

/-! ## Two runs in step -/

theorem place_of_errorAt? {errors : List ArityError} {place : Place} {e : ArityError}
    (h : errorAt? errors place = some e) : e.start = place.start ∧ e.stop = place.stop := by
  have hfound := List.find?_some h
  simpa using hfound

section
variable {τ ν : Type} [SyntaxTree τ ν] {errors errors' : List ArityError}
  (h : ∀ place, (errorAt? errors place).map ArityError.arity =
    (errorAt? errors' place).map ArityError.arity)
include h

/-- A reference fares alike under errors that ask for the same number of arguments at its place,
    whatever kind of tree it stands in. -/
theorem fillReference_congr (file : String) (p : Progress τ) (n : ν) :
    fillReference file errors p n = fillReference file errors' p n := by
  unfold fillReference
  -- The two steps ask the same, up to the error that is found at the place they are told.
  refine bind_congr fun within => ?_
  split
  · rfl
  · refine bind_congr fun has => ?_
    split
    · rfl
    · refine bind_congr fun name => ?_
      split
      · refine bind_congr fun place => ?_
        have hplace := h place
        cases he : errorAt? errors place with
        | none =>
          rw [he, Option.map_none, eq_comm, Option.map_eq_none_iff] at hplace
          rw [hplace]
        | some e =>
          rw [he, Option.map_some, eq_comm, Option.map_eq_some_iff] at hplace
          obtain ⟨e', he', harity⟩ := hplace
          -- Both are about the place, so even what is told about them is the same.
          have hcovers := place_of_errorAt? he
          have hcovers' := place_of_errorAt? he'
          rw [he']
          simp only [hcovers.1, hcovers.2, hcovers'.1, hcovers'.2, harity]
      · rfl

theorem fillReferences_congr (file : String) (p : Progress τ) (ns : List ν) :
    fillReferences file errors p ns = fillReferences file errors' p ns := by
  induction ns generalizing p with
  | nil => rfl
  | cons n ns ih =>
    rw [fillReferences, fillReferences, fillReference_congr h]
    cases fillReference file errors' p n with
    | error f => rfl
    | ok q => exact ih q

theorem fillDocument_congr (file : String) (t : τ) :
    fillDocument file errors t = fillDocument file errors' t := by
  simp only [fillDocument, fillReferences_congr h]

end

/-- Filling in a file is the same under indexes that agree on whether there are errors for it, and
    on how many arguments these ask for at each place. -/
theorem fillWithIndex_congr {w : Workspace} {path : String} {index index' : Index}
    (hhas : index.hasRecords w.cwd path = index'.hasRecords w.cwd path)
    {key : Except Fault String} {errors errors' : List ArityError}
    (hfor : index.recordsFor w.cwd path = key.map fun _ => errors)
    (hfor' : index'.recordsFor w.cwd path = key.map fun _ => errors')
    (h : ∀ place, (errorAt? errors place).map ArityError.arity =
      (errorAt? errors' place).map ArityError.arity)
    (source : String) (o : Options) (backend : Option Backend) :
    fillWithIndex w path source o backend index =
      fillWithIndex w path source o backend index' := by
  have heligible :
      isEligible w.cwd path source index o = isEligible w.cwd path source index' o := by
    simp only [isEligible, hhas]
  have hfill (b : Backend) : fill b w.cwd path source index o =
      fill b w.cwd path source index' o := by
    unfold fill
    rw [heligible, hfor, hfor']
    cases key with
    | error f => rfl
    | ok key => simp only [Except.map, fillDocument_congr h]
  simp only [fillWithIndex, hhas, hfill]

/-- With a fresh cache a file is filled in under the index that the report is loaded as. -/
theorem fillFile_fresh {w : Workspace} {store : Store} {o : Options} {index : Index} {event : Event}
    (h : Report.load store w.cwd o.errors o.matching = .ok (index, event)) (path source : String)
    (backend : Option Backend) :
    (fillFile w store {} path source o backend).filled =
      (fillWithIndex w path source o backend index).1 := by
  simp only [fillFile, Report.Cache.get, List.lookup_nil, h]

/-! ## Reports -/

/-- **What a file sees of a report.** Let two reports be loaded, each with a fresh cache. If at
    every place of a file they want the same number of arguments, then filling it in gives the same
    result under both, whatever its text is and whatever backend parses it. So it does if one report
    is made from the other by changes that are of no concern to the file: by putting in or leaving
    out entries that report no arity error, errors about files with other keys and repeated errors
    about one place, and by reordering entries that are about different places. -/
theorem fillFile_sees_wanted (w : Workspace) (o : Options) (backend : Option Backend)
    (path : String) (store store' : Store) (report report' : Option String) (index index' : Index)
    (event event' : Event)
    (hload : Report.load store w.cwd report o.matching = .ok (index, event))
    (hload' : Report.load store' w.cwd report' o.matching = .ok (index', event')) :
    let entries := entriesIn store w.cwd report
    let entries' := entriesIn store' w.cwd report'
    let want := wanted w.cwd o.matching path
    ((∀ place, want (entries.filterMap errorOf?) place = want (entries'.filterMap errorOf?) place) →
      ∀ source, (fillFile w store {} path source { o with errors := report } backend).filled =
        (fillFile w store' {} path source { o with errors := report' } backend).filled) ∧
    (SameFor w.cwd o.matching path entries entries' →
      ∀ source, (fillFile w store {} path source { o with errors := report } backend).filled =
        (fillFile w store' {} path source { o with errors := report' } backend).filled) := by
  intro entries entries' want
  have hsame : (∀ place, want (entries.filterMap errorOf?) place =
      want (entries'.filterMap errorOf?) place) → ∀ source,
      (fillFile w store {} path source { o with errors := report } backend).filled =
        (fillFile w store' {} path source { o with errors := report' } backend).filled := by
    intro hwant source
    obtain ⟨hfor, hhas⟩ := Report.recordsFor_of_load hload path
    obtain ⟨hfor', hhas'⟩ := Report.recordsFor_of_load hload' path
    rw [fillFile_fresh hload, fillFile_fresh hload']
    -- Where the report was found is of no importance any more.
    show (fillWithIndex w path source o backend index).1 =
      (fillWithIndex w path source o backend index').1
    refine congrArg Prod.fst (fillWithIndex_congr ?_ hfor hfor' ?_ source o backend)
    · rw [hhas, hhas', Report.isEmpty_eq_of_wanted hwant]
    · exact hwant
  exact ⟨hsame, fun h => hsame h.wanted_eq⟩

namespace Sample

/-- A report with one error about a file. -/
def plainReport : String :=
  reportOf [entry "/repo/Foo.js" "10" "13" (needs "1")]

/-- The same error among others: a malformed entry, an error about another file, and a later error
    about the same place. -/
def noisyReport : String :=
  reportOf [['5'], entry "Bar.js" "10" "13" (needs "3"), entry "src/Foo.js" "10" "13" (needs "1"),
    entry "Foo.js" "10" "13" (needs "2")]

end Sample

/-- A malformed entry, an error about another file and a later error about the same place make no
    difference to a file, and its source is filled in under both reports. -/
theorem fillFile_sees_wanted_noise :
    let w : Workspace := ⟨[], fun _ _ => Sample.tupleTree⟩
    let plain := Sample.reportStore Sample.plainReport
    let noisy := Sample.reportStore Sample.noisyReport
    let o : Options := { errors := some "errors.json" }
    (∃ index event, Report.load plain [] o.errors .basename = .ok (index, event) ∧
      index.size = 1) ∧
    (∃ index event, Report.load noisy [] o.errors .basename = .ok (index, event) ∧
      index.size = 3) ∧
    (∀ backend source, (fillFile w plain {} "Foo.js" source o backend).filled =
      (fillFile w noisy {} "Foo.js" source o backend).filled) ∧
    (fillFile w noisy {} "Foo.js" Sample.tupleSource o none).filled =
      ⟨some "type T = [Foo<any>, Bar, Baz]; // @flow", 1⟩ := by
  intro w plain noisy o
  obtain ⟨hplain, herrors⟩ := @load_reportStore Sample.plainReport .basename
    ⟨[("Foo.js", [⟨"/repo/Foo.js", 10, 13, 1⟩])], .basename, 1⟩ [⟨"/repo/Foo.js", 10, 13, 1⟩] (by
      rw [Report.entries?, Sample.plainReport, Sample.reportOf, String.toList_ofList]
      decide +kernel)
  obtain ⟨hnoisy, herrors'⟩ := @load_reportStore Sample.noisyReport .basename
    ⟨[("Bar.js", [⟨"Bar.js", 10, 13, 3⟩]),
      ("Foo.js", [⟨"src/Foo.js", 10, 13, 1⟩, ⟨"Foo.js", 10, 13, 2⟩])], .basename, 4⟩
    [⟨"Bar.js", 10, 13, 3⟩, ⟨"src/Foo.js", 10, 13, 1⟩, ⟨"Foo.js", 10, 13, 2⟩] (by
      rw [Report.entries?, Sample.noisyReport, Sample.reportOf, String.toList_ofList]
      decide +kernel)
  have hwanted : ∀ place,
      wanted [] .basename "Foo.js" ((entriesIn plain [] o.errors).filterMap errorOf?) place =
        wanted [] .basename "Foo.js" ((entriesIn noisy [] o.errors).filterMap errorOf?) place := by
    intro place
    rw [herrors, herrors']
    have hconcerned : [(⟨"/repo/Foo.js", 10, 13, 1⟩ : ArityError)].filter
        (concerns [] .basename "Foo.js") = [⟨"/repo/Foo.js", 10, 13, 1⟩] := by decide +kernel
    have hconcerned' : [(⟨"Bar.js", 10, 13, 3⟩ : ArityError), ⟨"src/Foo.js", 10, 13, 1⟩,
        ⟨"Foo.js", 10, 13, 2⟩].filter (concerns [] .basename "Foo.js") =
        [⟨"src/Foo.js", 10, 13, 1⟩, ⟨"Foo.js", 10, 13, 2⟩] := by decide +kernel
    rw [wanted, wanted, hconcerned, hconcerned']
    by_cases hplace : 10 = place.start ∧ 13 = place.stop <;> simp [hplace]
  have hsame : ∀ backend source, (fillFile w plain {} "Foo.js" source o backend).filled =
      (fillFile w noisy {} "Foo.js" source o backend).filled := fun backend =>
    (fillFile_sees_wanted w o backend "Foo.js" plain noisy o.errors o.errors _ _ _ _
      hplain hnoisy).1 hwanted
  refine ⟨⟨_, _, hplain, rfl⟩, ⟨_, _, hnoisy, rfl⟩, hsame, ?_⟩
  -- Under the plain report there is one error, and it is about the first of the three names.
  have hfill : (fill (Dialect.backend ⟨.tsx, o.placeholder⟩ w.parser) [] "Foo.js"
      Sample.tupleSource ⟨[("Foo.js", [⟨"/repo/Foo.js", 10, 13, 1⟩])], .basename, 1⟩ o).1 =
      .ok ⟨some "type T = [Foo<any>, Bar, Baz]; // @flow", 1⟩ :=
    fill_eq_some [⟨"/repo/Foo.js", 10, 13, 1⟩] rfl (by decide +kernel) (by decide +kernel)
      (by decide +kernel) (by decide +kernel) (by decide) (by decide +kernel) (by decide +kernel)
      (by decide +kernel)
  rw [← hsame]
  exact (@fillFile_fresh w plain o _ _ hplain "Foo.js" Sample.tupleSource none).trans
    (fillWithIndex_of_fill (by decide +kernel) (by decide +kernel) hfill)

end ArityFill
