import ArityFill.Fill.File
import ArityFill.Proofs.Text.Segment

/-! # When a file is filled in

    Of the cache and the store, filling in a file only sees the index that it is given for the
    report. Once a cache has given an index it gives that index again, whatever has become of the
    report.

    A file is given a new text only if it is admitted: by its markers or its name, by the errors
    that the index has for it, and by having a grammar.
-/

namespace ArityFill

open Report (ArityError Index Cache Answer)

/-! ## Admission -/

/-- What a file has to fulfil under an index to be given a new text. -/
structure Admitted (w : Workspace) (o : Options) (index : Index) (path source : String) :
    Prop where
  /-- It is not marked as generated. -/
  notGenerated : o.generatedMarker = "" ∨ ¬ o.generatedMarker.toList <:+: source.toList
  /-- It has opted in, or need not. -/
  optedIn : o.optInMarker.toList <:+: source.toList ∨
    isDeclarationFile path o.declarationSuffixes = true
  /-- There are errors for it. -/
  hasRecords : index.hasRecords w.cwd path = .ok true
  /-- It has a grammar. -/
  grammar : ∃ g, Grammar.resolve o.language (some (Path.ofString path)) = .ok g

theorem isEligible_eq_true_iff {cwd : Location} {path source : String} {index : Index}
    {o : Options} :
    isEligible cwd path source index o = .ok true ↔
      (o.generatedMarker = "" ∨ ¬ o.generatedMarker.toList <:+: source.toList) ∧
      (o.optInMarker.toList <:+: source.toList ∨
        isDeclarationFile path o.declarationSuffixes = true) ∧
      index.hasRecords cwd path = .ok true := by
  unfold isEligible
  rw [← Text.occurs_iff_infix, ← Text.occurs_iff_infix, ← String.isEmpty_iff]
  cases o.generatedMarker.isEmpty <;> cases Text.occurs o.generatedMarker.toList source.toList <;>
    cases isDeclarationFile path o.declarationSuffixes <;>
    cases Text.occurs o.optInMarker.toList source.toList <;> simp

/-- A tree that is given a new text was given arguments somewhere. -/
theorem fillDocument_changed {τ ν : Type} [SyntaxTree τ ν] {file : String}
    {errors : List ArityError} {t : τ} {filled : Filled} {text : String}
    (h : (fillDocument file errors t).1 = .ok filled) (hsome : filled.source = some text) :
    1 ≤ filled.count := by
  unfold fillDocument at h
  split at h
  · cases h
  · split at h
    · next p _ =>
      simp only [Progress.finish] at h
      split at h
      · cases h
        cases hsome
      · next hcount =>
        split at h
        · cases h
          exact Nat.pos_of_ne_zero hcount
        · cases h
    · cases h

/-- A text that is filled in was looked at, and something in it was filled in. -/
theorem fill_changed {b : Backend} {cwd : Location} {path source : String} {index : Index}
    {o : Options} {filled : Filled} {text : String}
    (h : (fill b cwd path source index o).1 = .ok filled) (hsome : filled.source = some text) :
    isEligible cwd path source index o = .ok true ∧ 1 ≤ filled.count := by
  unfold fill at h
  split at h
  · cases h
  · cases h
    cases hsome
  · next heligible =>
    split at h
    · cases h
    · split at h
      · cases h
      · exact ⟨heligible, fillDocument_changed h hsome⟩

/-- A file that is filled in is admitted. -/
theorem fillWithIndex_changed {w : Workspace} {path source : String} {o : Options} {index : Index}
    {text : String} (h : (fillWithIndex w path source o none index).1.source = some text) :
    Admitted w o index path source ∧ 1 ≤ (fillWithIndex w path source o none index).1.count := by
  unfold fillWithIndex at h ⊢
  split at h
  · cases h
  · cases h
  · next hrecords =>
    simp only [backendFor] at h ⊢
    cases hgrammar : Grammar.resolve o.language (some (Path.ofString path)) with
    | error f =>
      simp only [hgrammar] at h
      cases h
    | ok g =>
      simp only [hgrammar] at h ⊢
      cases hfill : fill (Dialect.backend ⟨g, o.placeholder⟩ w.parser) w.cwd path source index
          o with
      | mk result events =>
        cases result with
        | error f =>
          simp only [hfill] at h
          cases h
        | ok filled =>
          simp only [hfill] at h ⊢
          obtain ⟨heligible, hcount⟩ := fill_changed (congrArg Prod.fst hfill) h
          obtain ⟨hgenerated, hopted, _⟩ := isEligible_eq_true_iff.mp heligible
          exact ⟨⟨hgenerated, hopted, hrecords, g, hgrammar⟩, hcount⟩

/-- A file that has errors and a grammar is filled in by it. -/
theorem fillWithIndex_of_fill {w : Workspace} {path source : String} {o : Options} {index : Index}
    {g : Grammar} {filled : Filled} (hrecords : index.hasRecords w.cwd path = .ok true)
    (hgrammar : Grammar.resolve o.language (some (Path.ofString path)) = .ok g)
    (hfill : (fill (Dialect.backend ⟨g, o.placeholder⟩ w.parser) w.cwd path source index o).1 =
      .ok filled) :
    (fillWithIndex w path source o none index).1 = filled := by
  simp only [fillWithIndex, hrecords, backendFor, hgrammar]
  split
  · next heq =>
    rw [heq] at hfill
    exact Except.ok.inj hfill
  · next heq =>
    rw [heq] at hfill
    cases hfill

/-! ## The index of a run -/

/-- A cache that has given an index gives it again. -/
theorem Report.Cache.get_again {c : Cache} {store : Store} {cwd : Location}
    {report : Option String} {m : Matching} {a : Answer}
    (h : c.get store cwd report m = .ok a) (store' : Store) :
    a.cache.get store' cwd report m = .ok ⟨a.found, a.cache, []⟩ := by
  unfold Cache.get at h
  split at h
  · next found hfound =>
    cases h
    simp only [Cache.get, hfound]
  · -- It was loaded, and the new entry is found behind the old ones.
    next hmissing =>
    split at h
    · cases h
    · cases h
      simp only [Cache.get, List.lookup_append, hmissing, Option.none_or, List.lookup_cons_self]

/-- The index in which the errors of a file are looked up. -/
def indexFor (cache : Cache) (store : Store) (cwd : Location) (o : Options) :
    Except Fault Index :=
  (cache.get store cwd o.errors o.matching).map fun a => a.found.index

/-- A fresh cache gives the index of the report. -/
theorem indexFor_of_report {store : Store} {cwd : Location} {o : Options} {report text : String}
    {index : Index} (hreport : o.errors = some report) (hname : report.isEmpty = false)
    (hread : store.readText cwd (.ofString report) = .ok text)
    (hindex : (Report.entries? text).map (Index.ofEntries cwd o.matching) = some (.ok index)) :
    indexFor {} store cwd o = .ok index := by
  obtain ⟨entries, hentries, hof⟩ := Option.map_eq_some_iff.mp hindex
  simp only [indexFor, Cache.get, List.lookup_nil, hreport, Report.load, hname,
    Report.readEntries, hread, hentries, hof]
  rfl

/-- What filling in a file comes to under an index, if there is one. -/
def fillUnder (w : Workspace) (o : Options) (path source : String) :
    Except Fault Index → Filled
  | .error _ => .unchanged
  | .ok index => (fillWithIndex w path source o none index).1

/-- Filling in a file only sees the index. -/
theorem fillFile_filled (w : Workspace) (store : Store) (cache : Cache) (path source : String)
    (o : Options) :
    (fillFile w store cache path source o none).filled =
      fillUnder w o path source (indexFor cache store w.cwd o) := by
  unfold fillFile indexFor
  cases cache.get store w.cwd o.errors o.matching <;> rfl

/-- Filling in a file keeps the index for the next one, whatever is written after it has been
    given. -/
theorem indexFor_fillFile {w : Workspace} {store : Store} {cache : Cache} {path source : String}
    {o : Options} {index : Index} (h : indexFor cache store w.cwd o = .ok index) (store' : Store) :
    indexFor (fillFile w store cache path source o none).cache store' w.cwd o = .ok index := by
  unfold indexFor at h ⊢
  unfold fillFile
  cases hget : cache.get store w.cwd o.errors o.matching with
  | error f =>
    rw [hget] at h
    cases h
  | ok a =>
    rw [hget] at h
    simp only [Report.Cache.get_again hget]
    exact h

/-- A report that cannot be loaded leaves the cache alone. -/
theorem fillFile_cache_of_error {w : Workspace} {store : Store} {cache : Cache}
    {path source : String} {o : Options} {f : Fault}
    (h : indexFor cache store w.cwd o = .error f) :
    (fillFile w store cache path source o none).cache = cache := by
  unfold indexFor at h
  unfold fillFile
  cases hget : cache.get store w.cwd o.errors o.matching with
  | error g => rfl
  | ok a =>
    rw [hget] at h
    cases h

end ArityFill
