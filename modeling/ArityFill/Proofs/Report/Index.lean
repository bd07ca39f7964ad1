import ArityFill.Proofs.Report.Groups
import ArityFill.Proofs.Text.Utf8
import ArityFill.Report.Load

/-! # What a report is loaded as

    An entry of a report is passed over, or adds one error under its key, or stops the loading.
    `Index.ofEntries_eq` describes the index of some entries by these three: it is the fault of the
    first entry that stops, or else it holds the groups of the errors that the entries add.

    `load_groups_errors` says what follows for a report that is loaded: how errors are found by
    path, which keys there are and in which order, that no error is lost or repeated, and that the
    entries that are passed over leave no trace but in the number of entries.
-/

namespace ArityFill.Report

/-! ## Entries -/

/-- The error that an entry reports, if it reports one. -/
def errorOf? (entry : Json) : Option ArityError :=
  match Index.entryError? entry with
  | .ok e => e
  | .error _ => none

/-- Whether an entry counts: it is not passed over for its shape, its wording or a missing place. -/
def counts (entry : Json) : Bool :=
  Index.entryError? entry ≠ .ok none

/-- What an entry comes to: nothing, an error under its key, or a fault. -/
def place (cwd : Location) (m : Matching) (entry : Json) :
    Except Fault (Option (String × ArityError)) :=
  match Index.entryError? entry with
  | .error f => .error f
  | .ok none => .ok none
  | .ok (some e) =>
    match Path.key cwd m e.path with
    | .error f => .error f
    | .ok key => .ok (some (key, e))

/-- The fault by which an entry stops the building. -/
def stop? (cwd : Location) (m : Matching) (entry : Json) : Option Fault :=
  match place cwd m entry with
  | .error f => some f
  | .ok _ => none

/-- The error that an entry adds, with its key. -/
def placed? (cwd : Location) (m : Matching) (entry : Json) : Option (String × ArityError) :=
  match place cwd m entry with
  | .error _ => none
  | .ok e => e

section
variable {cwd : Location} {m : Matching}

/-- The entries come to the fault of the first one that stops, or to the errors that they add. -/
theorem addEntries_eq (groups : List (String × List ArityError)) (entries : List Json) :
    Index.addEntries cwd m groups entries =
      match entries.findSome? (stop? cwd m) with
      | some f => .error f
      | none => .ok ((entries.filterMap (placed? cwd m)).foldl
          (fun groups e => addTo e.1 e.2 groups) groups) := by
  induction entries generalizing groups with
  | nil => rfl
  | cons entry entries ih =>
    rw [Index.addEntries, List.findSome?_cons, List.filterMap_cons]
    cases hentry : Index.entryError? entry with
    | error f => simp [stop?, place, hentry]
    | ok e =>
      cases e with
      | none => simp [stop?, placed?, place, hentry, ih]
      | some e =>
        cases hkey : Path.key cwd m e.path with
        | error f => simp [stop?, place, hentry, hkey]
        | ok key => simp [stop?, placed?, place, hentry, hkey, ih]

/-- **The index of some entries.** -/
theorem Index.ofEntries_eq (entries : List Json) :
    Index.ofEntries cwd m entries =
      match entries.findSome? (stop? cwd m) with
      | some f => .error f
      | none => .ok ⟨groupsOf (entries.filterMap (placed? cwd m)), m, entries.length⟩ := by
  rw [Index.ofEntries, addEntries_eq]
  cases entries.findSome? (stop? cwd m) with
  | some f => rfl
  | none =>
    simp only [Except.ok.injEq, Index.mk.injEq, and_true]
    exact foldl_addTo [] _

theorem Index.ofEntries_eq_ok_iff {entries : List Json} {index : Index} :
    Index.ofEntries cwd m entries = .ok index ↔
      (∀ entry ∈ entries, stop? cwd m entry = none) ∧
      index = ⟨groupsOf (entries.filterMap (placed? cwd m)), m, entries.length⟩ := by
  rw [Index.ofEntries_eq, ← List.findSome?_eq_none_iff]
  cases entries.findSome? (stop? cwd m) with
  | some f => simp
  | none => simp [eq_comm]

/-- An entry that does not stop adds the error that it reports, under the key of its path. -/
theorem placed?_of_stop?_eq_none {entry : Json} (h : stop? cwd m entry = none) :
    (placed? cwd m entry).map Prod.snd = errorOf? entry ∧
    ∀ e ∈ placed? cwd m entry, Path.key cwd m e.2.path = .ok e.1 := by
  unfold stop? at h
  unfold placed? errorOf?
  unfold place at h ⊢
  cases hentry : Index.entryError? entry with
  | error f => simp [hentry] at h
  | ok e =>
    cases e with
    | none => simp
    | some e =>
      cases hkey : Path.key cwd m e.path with
      | error f => simp [hentry, hkey] at h
      | ok key => simp [hkey]

/-- Entries that do not stop add the errors that they report, each under the key of its path. -/
theorem filterMap_placed? {entries : List Json}
    (h : ∀ entry ∈ entries, stop? cwd m entry = none) :
    (entries.filterMap (placed? cwd m)).map Prod.snd = entries.filterMap errorOf? ∧
    ∀ e ∈ entries.filterMap (placed? cwd m), Path.key cwd m e.2.path = .ok e.1 := by
  constructor
  · rw [List.map_filterMap]
    exact List.filterMap_congr fun entry hentry => (placed?_of_stop?_eq_none (h entry hentry)).1
  · intro e he
    obtain ⟨entry, hentry, hplaced⟩ := List.mem_filterMap.mp he
    exact (placed?_of_stop?_eq_none (h entry hentry)).2 e hplaced

/-- The errors under a key are those whose path has it. -/
theorem errorsUnder_eq_filter {es : List (String × ArityError)}
    (h : ∀ e ∈ es, Path.key cwd m e.2.path = .ok e.1) (key : String) :
    errorsUnder key es = (es.map Prod.snd).filter fun e => Path.key cwd m e.path = .ok key := by
  rw [errorsUnder, List.filter_map]
  congr 1
  apply List.filter_congr
  intro e he
  simp [h e he]

end

/-! ## Reports -/

/-- An entry that does not count comes to nothing. -/
theorem place_of_not_counts {cwd : Location} {m : Matching} {entry : Json}
    (h : ¬ counts entry = true) : place cwd m entry = .ok none := by
  have hentry : Index.entryError? entry = .ok none := by simpa [counts] using h
  simp [place, hentry]

/-- Looking for something that entries that do not count do not have. -/
theorem filterMap_filter_counts {β : Type} {f : Json → Option β}
    (h : ∀ entry, ¬ counts entry = true → f entry = none) (entries : List Json) :
    (entries.filter counts).filterMap f = entries.filterMap f := by
  rw [List.filterMap_filter]
  apply List.filterMap_congr
  intro entry _
  by_cases hcounts : counts entry = true
  · rw [if_pos hcounts]
  · rw [if_neg hcounts, h entry hcounts]

/-- Entries that do not count are seen neither by the search for a fault nor by the groups. -/
theorem Index.ofEntries_of_filter_counts {cwd : Location} {m : Matching}
    {entries entries' : List Json} (h : entries'.filter counts = entries.filter counts) :
    Index.ofEntries cwd m entries' =
      (Index.ofEntries cwd m entries).map fun index => { index with total := entries'.length } := by
  have hsame {β : Type} {f : Json → Option β} (hf : ∀ e, ¬ counts e = true → f e = none) :
      entries'.filterMap f = entries.filterMap f := by
    rw [← filterMap_filter_counts hf, h, filterMap_filter_counts hf]
  have hstop : entries'.findSome? (stop? cwd m) = entries.findSome? (stop? cwd m) := by
    rw [← List.head?_filterMap, ← List.head?_filterMap]
    exact congrArg _ (hsame fun e he => by simp [stop?, place_of_not_counts he])
  have hplaced : entries'.filterMap (placed? cwd m) = entries.filterMap (placed? cwd m) :=
    hsame fun e he => by simp [placed?, place_of_not_counts he]
  rw [Index.ofEntries_eq, Index.ofEntries_eq, hstop, hplaced]
  cases entries.findSome? (stop? cwd m) <;> rfl

/-- The errors for a path are those whose file has the same key. -/
theorem Index.recordsFor_of_ofEntries {cwd : Location} {m : Matching} {entries : List Json}
    {index : Index} (h : Index.ofEntries cwd m entries = .ok index) (p : String) :
    index.recordsFor cwd p = (Path.key cwd m p).map fun key =>
      (entries.filterMap errorOf?).filter fun e => Path.key cwd m e.path = .ok key := by
  obtain ⟨hstop, rfl⟩ := Index.ofEntries_eq_ok_iff.mp h
  obtain ⟨herrors, hkeys⟩ := filterMap_placed? hstop
  rw [Index.recordsFor_eq, ← herrors]
  congr 1
  funext key
  rw [group_groupsOf, errorsUnder_eq_filter hkeys]

/-- A list of entries that can be indexed is made of lists that can be indexed, and key by key the
    errors of the second list follow those of the first. -/
theorem Index.ofEntries_append {cwd : Location} {m : Matching} {first second : List Json}
    {index : Index} (h : Index.ofEntries cwd m (first ++ second) = .ok index) :
    ∃ i j, Index.ofEntries cwd m first = .ok i ∧ Index.ofEntries cwd m second = .ok j ∧
      ∀ key, index.group key = i.group key ++ j.group key := by
  obtain ⟨hstop, rfl⟩ := Index.ofEntries_eq_ok_iff.mp h
  have hfirst : ∀ entry ∈ first, stop? cwd m entry = none := fun entry he =>
    hstop entry (List.mem_append_left _ he)
  have hsecond : ∀ entry ∈ second, stop? cwd m entry = none := fun entry he =>
    hstop entry (List.mem_append_right _ he)
  refine ⟨_, _, Index.ofEntries_eq_ok_iff.mpr ⟨hfirst, rfl⟩,
    Index.ofEntries_eq_ok_iff.mpr ⟨hsecond, rfl⟩, ?_⟩
  intro key
  rw [group_groupsOf, group_groupsOf, group_groupsOf, List.filterMap_append, errorsUnder_append]

/-- A report that can be read is loaded as the index of its entries. -/
theorem load_of_readEntries {store : Store} {cwd : Location} {path : String} {m : Matching}
    {entries : List Json} (hname : path ≠ "") (hread : readEntries store cwd path = .ok entries) :
    load store cwd (some path) m =
      (Index.ofEntries cwd m entries).map fun index =>
        (index, .loaded index.size index.total path) := by
  have hempty : path.isEmpty = false := by simpa using hname
  simp only [load, hempty, hread]
  cases Index.ofEntries cwd m entries <;> rfl

theorem ofEntries_of_load {store : Store} {cwd : Location} {path : String} {m : Matching}
    {entries : List Json} {index : Index} {event : Event} (hname : path ≠ "")
    (hread : readEntries store cwd path = .ok entries)
    (hload : load store cwd (some path) m = .ok (index, event)) :
    Index.ofEntries cwd m entries = .ok index := by
  rw [load_of_readEntries hname hread] at hload
  cases hindex : Index.ofEntries cwd m entries with
  | error f =>
    rw [hindex] at hload
    cases hload
  | ok i =>
    rw [hindex] at hload
    cases hload
    rfl

/-! ## Loaded reports -/

/-- The entries that a report is loaded from. There are none if it is not named, cannot be read or
    is malformed. -/
def entriesIn (store : Store) (cwd : Location) : Option String → List Json
  | none => []
  | some path =>
    if path.isEmpty then []
    else match readEntries store cwd path with
      | .ok entries => entries
      | .error _ => []

/-- Whether an error is about a file that has the key of a path. -/
def concerns (cwd : Location) (m : Matching) (path : String) (e : ArityError) : Bool :=
  Path.key cwd m e.path = Path.key cwd m path

theorem Index.hasRecords_of_ofEntries {cwd : Location} {m : Matching} {entries : List Json}
    {index : Index} (h : Index.ofEntries cwd m entries = .ok index) (p : String) :
    index.hasRecords cwd p = (index.recordsFor cwd p).map fun es => !es.isEmpty := by
  obtain ⟨_, rfl⟩ := Index.ofEntries_eq_ok_iff.mp h
  rw [Index.recordsFor_eq, Index.hasRecords_eq]
  cases Path.key cwd m p with
  | error f => rfl
  | ok key => simp only [Except.map, group_groupsOf, isSome_lookup_groupsOf]

/-- A report that is loaded is loaded as the index of its entries, but for their number. -/
theorem groups_of_load {store : Store} {cwd : Location} {report : Option String} {m : Matching}
    {index : Index} {event : Event} (h : load store cwd report m = .ok (index, event)) :
    ∃ total, Index.ofEntries cwd m (entriesIn store cwd report) =
      .ok { index with total := total } := by
  unfold load at h
  unfold entriesIn
  split at h
  · cases h
    exact ⟨0, rfl⟩
  · next path =>
    split at h
    · next hname =>
      cases h
      exact ⟨0, by simp only [hname]; rfl⟩
    · next hname =>
      split at h
      · next hread =>
        cases h
        exact ⟨0, by simp only [hname, hread]; rfl⟩
      · next entries hread =>
        split at h
        · cases h
        · next index' hof =>
          cases h
          exact ⟨index.total, by simp only [hname, hread]; exact hof⟩

/-- A report stops its loading by the first of its entries that stops. -/
theorem load_eq_error_iff_findSome? {store : Store} {cwd : Location} {report : Option String}
    {m : Matching} {f : Fault} :
    load store cwd report m = .error f ↔
      (entriesIn store cwd report).findSome? (stop? cwd m) = some f := by
  unfold load entriesIn
  cases report with
  | none => simp
  | some path =>
    by_cases hname : path.isEmpty = true
    · simp [hname]
    · simp only [hname, Bool.false_eq_true, ↓reduceIte]
      cases readEntries store cwd path with
      | error g => simp
      | ok entries =>
        simp only [Index.ofEntries_eq]
        cases entries.findSome? (stop? cwd m) <;> simp

/-- What a loaded report has for a file: the errors that concern it, if the path has a key. -/
theorem recordsFor_of_load {store : Store} {cwd : Location} {report : Option String} {m : Matching}
    {index : Index} {event : Event} (h : load store cwd report m = .ok (index, event))
    (path : String) :
    let errors := ((entriesIn store cwd report).filterMap errorOf?).filter (concerns cwd m path)
    index.recordsFor cwd path = (Path.key cwd m path).map (fun _ => errors) ∧
    index.hasRecords cwd path = (Path.key cwd m path).map fun _ => !errors.isEmpty := by
  intro errors
  obtain ⟨total, hof⟩ := groups_of_load h
  have hfor : index.recordsFor cwd path = (Path.key cwd m path).map fun _ => errors := by
    refine (Index.recordsFor_of_ofEntries hof path).trans ?_
    cases hkey : Path.key cwd m path with
    | error f => rfl
    | ok key =>
      have hconcerns : errors = ((entriesIn store cwd report).filterMap errorOf?).filter fun e =>
          Path.key cwd m e.path = .ok key := by
        simp only [errors, ← hkey]
        rfl
      rw [hconcerns]
      rfl
  refine ⟨hfor, ?_⟩
  have hhas := Index.hasRecords_of_ofEntries hof path
  -- The number of entries plays no part in either.
  have hhas' : index.hasRecords cwd path =
      (index.recordsFor cwd path).map fun es => !es.isEmpty := hhas
  rw [hhas', hfor]
  cases Path.key cwd m path <;> rfl

/-- **What a report is loaded as.** Let `errors` be the arity errors of a report that is loaded, in
    its order. Then the errors for a path are those whose file has the same key, and there are
    errors for it exactly if there is one; the keys are those of `errors`, each once, in the order
    of their first appearance; no error is lost or repeated, and all entries are counted. Entries
    that do not count can be put in or left out anywhere, and the number of entries is all that
    changes. The index of two lists of entries, one behind the other, has under each key the errors
    of the first and then those of the second. -/
theorem load_groups_errors (store : Store) (cwd : Location) (path : String) (m : Matching)
    (entries : List Json) (index : Index) (event : Event) :
    let errors := entries.filterMap errorOf?
    path ≠ "" →
    readEntries store cwd path = .ok entries →
    load store cwd (some path) m = .ok (index, event) →
    (∀ p, index.recordsFor cwd p = (Path.key cwd m p).map fun key =>
      errors.filter fun e => Path.key cwd m e.path = .ok key) ∧
    (∀ p, index.hasRecords cwd p = (index.recordsFor cwd p).map fun es => !es.isEmpty) ∧
    (∃ keys : List String, errors.map (fun e => Path.key cwd m e.path) = keys.map .ok ∧
      index.files = keys.eraseDups) ∧
    index.files.Nodup ∧
    index.size = errors.length ∧
    index.total = entries.length ∧
    (∀ entries', entries'.filter counts = entries.filter counts →
      Index.ofEntries cwd m entries' = .ok { index with total := entries'.length }) ∧
    (∀ first second, entries = first ++ second →
      ∃ i j, Index.ofEntries cwd m first = .ok i ∧ Index.ofEntries cwd m second = .ok j ∧
        ∀ key, index.group key = i.group key ++ j.group key) := by
  intro errors hname hread hload
  have hof := ofEntries_of_load hname hread hload
  have hfor := Index.recordsFor_of_ofEntries hof
  have hinsert (entries' : List Json) (hsame : entries'.filter counts = entries.filter counts) :
      Index.ofEntries cwd m entries' = .ok { index with total := entries'.length } := by
    rw [Index.ofEntries_of_filter_counts hsame, hof]
    rfl
  have happend (first second : List Json) (hsplit : entries = first ++ second) :
      ∃ i j, Index.ofEntries cwd m first = .ok i ∧ Index.ofEntries cwd m second = .ok j ∧
        ∀ key, index.group key = i.group key ++ j.group key := by
    rw [hsplit] at hof
    exact Index.ofEntries_append hof
  obtain ⟨hstop, rfl⟩ := Index.ofEntries_eq_ok_iff.mp hof
  let es := entries.filterMap (placed? cwd m)
  obtain ⟨herrors, hkeys⟩ : es.map Prod.snd = errors ∧
      ∀ e ∈ es, Path.key cwd m e.2.path = .ok e.1 := filterMap_placed? hstop
  have hfiles : (Index.mk (groupsOf es) m entries.length).files =
      (es.map Prod.fst).eraseDups := by
    simp [Index.files, groupsOf, Function.comp_def]
  refine ⟨hfor, ?_, ⟨es.map Prod.fst, ?_, hfiles⟩, ?_, ?_, rfl, hinsert, happend⟩
  · intro p
    rw [Index.recordsFor_eq, Index.hasRecords_eq]
    cases Path.key cwd m p with
    | error f => rfl
    | ok key => simp only [Except.map, group_groupsOf, isSome_lookup_groupsOf]
  · rw [← herrors, List.map_map, List.map_map]
    exact List.map_congr_left hkeys
  · rw [hfiles]
    exact nodup_eraseDups _
  · rw [← herrors, List.length_map]
    exact size_groupsOf es m entries.length

end ArityFill.Report

namespace ArityFill.Sample

open Report (Index)

/-- The characters of some texts. A report is built from short texts. -/
def joined (texts : List String) : List Char :=
  texts.flatMap String.toList

/-- The description of an arity error. -/
def needs (arity : String) : List String :=
  ["Application ", "of polymorphic ", "type needs ", "<list of ", arity]

/-- An entry about a place of a file. -/
def entry (path start stop : String) (description : List String) : List Char :=
  joined (["\x7b\"message\":[", "\x7b\"path\":\"", path, "\",\"loc\":\x7b", "\"start\":\x7b",
    "\"offset\":", start, "\x7d,\"end\":\x7b", "\"offset\":", stop, "\x7d\x7d\x7d,",
    "\x7b\"descr\":\""] ++ description ++ ["\"\x7d]\x7d"])

/-- A report with some entries. -/
def reportOf (entries : List (List Char)) : String :=
  String.ofList (joined ["\x7b\"errors\":["] ++ [','].intercalate entries ++ joined ["]\x7d"])

/-- A store with a report. -/
def reportStore (text : String) : Store :=
  ⟨[(["errors.json"], Utf8.ofString text)], []⟩

/-- Two arity errors about files of one name, and an entry of another shape between them. -/
def oneName : String :=
  reportOf [entry "/r/a.js" "10" "13" (needs "2 more"), ['5'],
    entry "r\\\\a.js" "\"4\"" "5" (needs "1")]

/-- The index of that report. -/
def oneNameIndex : Index :=
  ⟨[("a.js", [⟨"/r/a.js", 10, 13, 2⟩, ⟨"r\\a.js", 4, 5, 1⟩])], .basename, 3⟩

/-- Two arity errors about files of one name in different folders. -/
def twoFolders : String :=
  reportOf [entry "/r/a.js" "10" "13" (needs "2"), entry "z\\\\a.js" "4" "5" (needs "1")]

end ArityFill.Sample

namespace ArityFill.Report

/-- The entries of a report that is found as a file with some text. -/
theorem readEntries_of_find {store : Store} {cwd loc : Location} {path text : String}
    (hfind : store.find cwd (.ofString path) = .ok (loc, .file (Utf8.ofString text))) :
    readEntries store cwd path =
      match entries? text with
      | some entries => .ok entries
      | none => .error .malformedReport := by
  have hread : store.readText cwd (.ofString path) = .ok text := by
    simp only [Store.readText, Store.read, hfind, Utf8.toString?_ofString]
  cases hentries : entries? text <;> simp only [readEntries, hread, hentries]

/-- The entries of the only report of a store. -/
theorem readEntries_reportStore (text : String) :
    readEntries (Sample.reportStore text) [] "errors.json" =
      match entries? text with
      | some entries => .ok entries
      | none => .error .malformedReport := by
  have hfind : (Sample.reportStore text).find [] (.ofString "errors.json") =
      .ok (["errors.json"], .file (Utf8.ofString text)) := rfl
  exact readEntries_of_find hfind

/-- The only report of a store, with what it is loaded as and its errors. -/
theorem load_reportStore {text : String} {m : Matching} {index : Index} {errors : List ArityError}
    (h : (entries? text).map (fun entries =>
      (Index.ofEntries [] m entries, entries.filterMap errorOf?)) = some (.ok index, errors)) :
    load (Sample.reportStore text) [] (some "errors.json") m =
      .ok (index, .loaded index.size index.total "errors.json") ∧
    (entriesIn (Sample.reportStore text) [] (some "errors.json")).filterMap errorOf? = errors := by
  obtain ⟨entries, hentries, hboth⟩ := Option.map_eq_some_iff.mp h
  rw [Prod.mk.injEq] at hboth
  have hread : readEntries (Sample.reportStore text) [] "errors.json" = .ok entries := by
    rw [readEntries_reportStore, hentries]
  have hname : "errors.json".isEmpty = false := by decide
  constructor
  · rw [load_of_readEntries (by decide) hread, hboth.1]
    rfl
  · simp only [entriesIn, hname, hread]
    exact hboth.2

/-- The index of a report about files of one name, and what becomes of it with an entry more. -/
theorem load_groups_errors_one_name :
    ∃ entries, readEntries (Sample.reportStore Sample.oneName) [] "errors.json" = .ok entries ∧
      load (Sample.reportStore Sample.oneName) [] (some "errors.json") .basename =
        .ok (Sample.oneNameIndex, .loaded 2 3 "errors.json") ∧
      (entries.filterMap errorOf?).length = 2 ∧
      Sample.oneNameIndex.recordsFor [] "z/a.js" =
        .ok ((entries.filterMap errorOf?).filter fun e =>
          Path.key [] .basename e.path = .ok "a.js") ∧
      Index.ofEntries [] .basename (.null :: entries) =
        .ok { Sample.oneNameIndex with total := 4 } := by
  have hindex : (entries? Sample.oneName).map (Index.ofEntries [] .basename) =
      some (.ok Sample.oneNameIndex) := by
    rw [entries?, Sample.oneName, Sample.reportOf, String.toList_ofList]
    decide +kernel
  obtain ⟨entries, hentries, hof⟩ := Option.map_eq_some_iff.mp hindex
  have hread : readEntries (Sample.reportStore Sample.oneName) [] "errors.json" = .ok entries := by
    rw [readEntries_reportStore, hentries]
  have hload : load (Sample.reportStore Sample.oneName) [] (some "errors.json") .basename =
      .ok (Sample.oneNameIndex, .loaded 2 3 "errors.json") := by
    rw [load_of_readEntries (by decide) hread, hof]
    rfl
  obtain ⟨hfor, _, _, _, hsize, htotal, hinsert, _⟩ :=
    load_groups_errors _ [] "errors.json" .basename entries _ _ (by decide) hread hload
  have hkey : Path.key [] .basename "z/a.js" = .ok "a.js" := by decide +kernel
  have hrecords := hfor "z/a.js"
  rw [hkey] at hrecords
  have hnull := hinsert (.null :: entries) (List.filter_cons_of_neg (by decide +kernel))
  rw [List.length_cons, ← htotal] at hnull
  exact ⟨entries, hread, hload, hsize.symm, hrecords, hnull⟩

end ArityFill.Report
