import ArityFill.Proofs.Report.Arity
import ArityFill.Proofs.Report.Index
import Mathlib.Data.List.TakeWhile

/-! # When a report stops its own loading

    A report that is not named, or cannot be read, or is malformed gives the empty index. Entries of
    another shape, and entries that report no arity error, are passed over. What is left are two
    ways in which a single entry of a readable report stops the loading of all others: an arity of
    too many digits, and a path with U+0000 where paths are compared as a whole. `Stops` states the
    two, `load_eq_error_iff` says that there is no other.
-/

namespace ArityFill.Report

/-- How an entry stops the loading of a report. -/
inductive Stops (m : Matching) (entry : Json) : Fault → Prop where
  /-- Its second message asks for an arity of too many digits. -/
  | digits {head second : Message} {rest : List Message} {ds : List Char}
      (messages : checkEntry entry = .ok (head :: second :: rest))
      (arity : arityDigits second.description.toList = some ds)
      (long : Text.digitLimit < ds.length) : Stops m entry (.tooManyDigits ds.length)
  /-- It is an arity error, paths are compared as a whole, and its path holds U+0000. -/
  | null {head second : Message} {rest : List Message} {ds : List Char} {path : String}
      {place : Place} (messages : checkEntry entry = .ok (head :: second :: rest))
      (arity : arityDigits second.description.toList = some ds)
      (short : ds.length ≤ Text.digitLimit) (named : head.path = some path)
      (placed : head.place = some place) (whole : m = .path)
      (null : Path.hasNull path = true) : Stops m entry .nullInPath

/-! ## Entries that stop -/

/-- Only matching by path needs paths that hold no U+0000. -/
theorem key_eq_error_iff {cwd : Location} {m : Matching} {path : String} {f : Fault} :
    Path.key cwd m path = .error f ↔ m = .path ∧ Path.hasNull path = true ∧ f = .nullInPath := by
  cases m with
  | basename => simp [Path.key]
  | path =>
    rw [Path.key]
    split
    · next h => simp [h, eq_comm]
    · next h => simp [h]

theorem arityOf_eq_error_iff {description : String} {f : Fault} :
    arityOf description = .error f ↔
      ∃ ds, arityDigits description.toList = some ds ∧ Text.digitLimit < ds.length ∧
        f = .tooManyDigits ds.length := by
  unfold arityOf
  cases arityDigits description.toList with
  | none => simp
  | some ds =>
    by_cases h : ds.length ≤ Text.digitLimit
    · simp [h, Nat.not_lt.mpr h]
    · simp [h, Nat.lt_of_not_le h, eq_comm]

theorem arityOf_eq_some_iff {description : String} {arity : Nat} :
    arityOf description = .ok (some arity) ↔
      ∃ ds, arityDigits description.toList = some ds ∧ ds.length ≤ Text.digitLimit ∧
        arity = Text.digitsValue ds := by
  unfold arityOf
  cases arityDigits description.toList with
  | none => simp
  | some ds =>
    by_cases h : ds.length ≤ Text.digitLimit
    · simp [h, eq_comm]
    · simp [h]

/-- An entry is at fault by itself only through its digits. -/
theorem entryError?_eq_error_iff {entry : Json} {f : Fault} :
    Index.entryError? entry = .error f ↔
      ∃ head second rest, checkEntry entry = .ok (head :: second :: rest) ∧
        arityOf second.description = .error f := by
  unfold Index.entryError?
  cases checkEntry entry with
  | error failures => simp
  | ok messages =>
    match messages with
    | [] => simp [arityError?]
    | [_] => simp [arityError?]
    | head :: second :: rest =>
      simp only [arityError?, Except.ok.injEq, List.cons.injEq]
      cases harity : arityOf second.description with
      | error g => simp [harity]
      | ok arity =>
        cases arity with
        | none => simp [harity]
        | some n => cases head.path <;> cases head.place <;> simp [harity]

/-- What it takes for an entry to report an arity error. -/
theorem entryError?_eq_some_iff {entry : Json} {e : ArityError} :
    Index.entryError? entry = .ok (some e) ↔
      ∃ head second rest path place arity, checkEntry entry = .ok (head :: second :: rest) ∧
        arityOf second.description = .ok (some arity) ∧ head.path = some path ∧
        head.place = some place ∧ e = ⟨path, place.start, place.stop, arity⟩ := by
  unfold Index.entryError?
  cases checkEntry entry with
  | error failures => simp
  | ok messages =>
    match messages with
    | [] => simp [arityError?]
    | [_] => simp [arityError?]
    | head :: second :: rest =>
      simp only [arityError?, Except.ok.injEq, List.cons.injEq]
      cases harity : arityOf second.description with
      | error g => simp [harity]
      | ok arity =>
        cases arity with
        | none => simp [harity]
        | some n =>
          cases hpath : head.path with
          | none => simp [hpath]
          | some path =>
            cases hplace : head.place with
            | none => simp [hplace]
            | some place => simp [harity, hpath, hplace, eq_comm]

/-- The entries that stop are those that are said to. -/
theorem stop?_eq_some_iff {cwd : Location} {m : Matching} {entry : Json} {f : Fault} :
    stop? cwd m entry = some f ↔ Stops m entry f := by
  have hstop : stop? cwd m entry = some f ↔ Index.entryError? entry = .error f ∨
      ∃ e, Index.entryError? entry = .ok (some e) ∧ Path.key cwd m e.path = .error f := by
    unfold stop? place
    cases Index.entryError? entry with
    | error g => simp
    | ok e =>
      cases e with
      | none => simp
      | some e => cases hkey : Path.key cwd m e.path <;> simp [hkey]
  rw [hstop, entryError?_eq_error_iff]
  constructor
  · rintro (⟨head, second, rest, hmessages, harity⟩ | ⟨e, hentry, hkey⟩)
    · obtain ⟨ds, hds, hlong, rfl⟩ := arityOf_eq_error_iff.mp harity
      exact .digits hmessages hds hlong
    · obtain ⟨head, second, rest, path, place, arity, hmessages, harity, hpath, hplace, rfl⟩ :=
        entryError?_eq_some_iff.mp hentry
      obtain ⟨ds, hds, hshort, _⟩ := arityOf_eq_some_iff.mp harity
      obtain ⟨hm, hnull, rfl⟩ := key_eq_error_iff.mp hkey
      exact .null hmessages hds hshort hpath hplace hm hnull
  · intro h
    cases h with
    | digits hmessages hds hlong =>
      exact .inl ⟨_, _, _, hmessages, arityOf_eq_error_iff.mpr ⟨_, hds, hlong, rfl⟩⟩
    | @null head second rest ds path place hmessages hds hshort hpath hplace hm hnull =>
      refine .inr ⟨⟨path, place.start, place.stop, Text.digitsValue ds⟩, ?_, ?_⟩
      · exact entryError?_eq_some_iff.mpr ⟨head, second, rest, path, place, _, hmessages,
          arityOf_eq_some_iff.mpr ⟨ds, hds, hshort, rfl⟩, hpath, hplace, rfl⟩
      · exact key_eq_error_iff.mpr ⟨hm, hnull, rfl⟩

/-! ## Reports -/

theorem load_of_not_named {report : Option String} (h : report = none ∨ report = some "")
    (store : Store) (cwd : Location) (m : Matching) :
    load store cwd report m = .ok (.empty m, .noReport) := by
  rcases h with rfl | rfl <;> rfl

/-- A report that cannot be read, or is malformed, gives the empty index. -/
theorem load_of_readEntries_error {store : Store} {cwd : Location} {path : String} {m : Matching}
    {f : Fault} (hname : path ≠ "") (hread : readEntries store cwd path = .error f) :
    load store cwd (some path) m = .ok (.empty m, .loadFailed path f) := by
  have hempty : path.isEmpty = false := by simpa using hname
  simp [load, hempty, hread]

/-- A report that can be read is stopped by the first of its entries that stops. -/
theorem load_eq_error_iff {store : Store} {cwd : Location} {path : String} {m : Matching}
    {entries : List Json} {f : Fault} (hname : path ≠ "")
    (hread : readEntries store cwd path = .ok entries) :
    load store cwd (some path) m = .error f ↔
      ∃ before entry after, entries = before ++ entry :: after ∧
        (∀ e ∈ before, ∀ g, ¬ Stops m e g) ∧ Stops m entry f := by
  have hfirst : load store cwd (some path) m = .error f ↔
      entries.findSome? (stop? cwd m) = some f := by
    rw [load_of_readEntries hname hread, Index.ofEntries_eq]
    cases entries.findSome? (stop? cwd m) <;> simp [Except.map]
  have hnone (e : Json) : stop? cwd m e = none ↔ ∀ g, ¬ Stops m e g := by
    rw [Option.eq_none_iff_forall_ne_some]
    exact forall_congr' fun g => not_congr stop?_eq_some_iff
  rw [hfirst, List.findSome?_eq_some_iff]
  simp only [hnone, stop?_eq_some_iff]
  constructor
  · rintro ⟨before, entry, after, hsplit, hstops, hbefore⟩
    exact ⟨before, entry, after, hsplit, hbefore, hstops⟩
  · rintro ⟨before, entry, after, hsplit, hbefore, hstops⟩
    exact ⟨before, entry, after, hsplit, hstops, hbefore⟩

/-- **When a report is loaded.** Without a name, or if the report cannot be read or is malformed,
    the index is empty. A report that can be read is stopped exactly if some entry stops it, and
    then by the first such entry. If there is none, the index holds the arity error of every entry
    that reports one, whatever the other entries are. -/
theorem load_unless_stopped (store : Store) (cwd : Location) (report : Option String)
    (m : Matching) :
    (report = none ∨ report = some "" → load store cwd report m = .ok (.empty m, .noReport)) ∧
    ∀ path, report = some path → path ≠ "" →
      (∀ f, readEntries store cwd path = .error f →
        load store cwd report m = .ok (.empty m, .loadFailed path f)) ∧
      ∀ entries, readEntries store cwd path = .ok entries →
        (∀ f, load store cwd report m = .error f ↔
          ∃ before entry after, entries = before ++ entry :: after ∧
            (∀ e ∈ before, ∀ g, ¬ Stops m e g) ∧ Stops m entry f) ∧
        ((∀ entry ∈ entries, ∀ f, ¬ Stops m entry f) →
          ∃ index event, load store cwd report m = .ok (index, event) ∧
            ∀ entry ∈ entries, ∀ e, Index.entryError? entry = .ok (some e) →
              ∃ es, index.recordsFor cwd e.path = .ok es ∧ e ∈ es) := by
  refine ⟨fun h => load_of_not_named h store cwd m, ?_⟩
  rintro path rfl hname
  refine ⟨fun f => load_of_readEntries_error hname, ?_⟩
  intro entries hread
  refine ⟨fun f => load_eq_error_iff hname hread, ?_⟩
  intro hfree
  cases hload : load store cwd (some path) m with
  | error f =>
    obtain ⟨before, entry, after, rfl, _, hstops⟩ := (load_eq_error_iff hname hread).mp hload
    exact absurd hstops (hfree entry (by simp) f)
  | ok r =>
    obtain ⟨index, event⟩ := r
    refine ⟨index, event, rfl, ?_⟩
    intro entry hentry e he
    cases hkey : Path.key cwd m e.path with
    | error f =>
      -- Then the entry would stop.
      have hstop : stop? cwd m entry = some f := by simp [stop?, place, he, hkey]
      exact absurd (stop?_eq_some_iff.mp hstop) (hfree entry hentry f)
    | ok key =>
      have hfor := Index.recordsFor_of_ofEntries (ofEntries_of_load hname hread hload) e.path
      rw [hkey] at hfor
      refine ⟨_, hfor, List.mem_filter.mpr ⟨?_, by simp [hkey]⟩⟩
      exact List.mem_filterMap.mpr ⟨entry, hentry, by simp [errorOf?, he]⟩

end ArityFill.Report

namespace ArityFill.Sample

open Report (ArityError Index)

/-- A report on two files. The path of the first holds U+0000, as an escape. -/
def nullPath : String :=
  reportOf [entry "a\\u0000.js" "1" "2" (needs "1"), entry "b.js" "3" "4" (needs "1")]

/-- An entry with a description. -/
def entryWith (description : String) : Json :=
  .object [("message", .array
    [.object [("path", .string "a.js"), ("loc", .object
      [("start", .object [("offset", .integer 1)]), ("end", .object [("offset", .integer 2)])])],
     .object [("descr", .string description)]])]

/-- An entry that asks for an arity of so many digits. -/
def manyDigits (count : Nat) : Json :=
  entryWith (String.ofList (Report.arityLead ++ List.replicate count '9'))

end ArityFill.Sample

namespace ArityFill.Report

/-- The digits right behind the lead, up to the end. -/
theorem arityDigits_lead_append {ds : List Char} (hne : ds ≠ [])
    (hdigits : ∀ d ∈ ds, Text.isDigit d = true) : arityDigits (arityLead ++ ds) = some ds := by
  have hbegins := Text.beginsWithDigit_append hne hdigits []
  rw [List.append_nil] at hbegins
  rw [arityDigits_here hbegins, List.takeWhile_eq_self_iff.mpr hdigits]

/-- An arity of more digits than are read as a number stops the loading, however files are
    matched. -/
theorem stops_manyDigits (m : Matching) {count : Nat} (h : Text.digitLimit < count) :
    Stops m (Sample.manyDigits count) (.tooManyDigits count) := by
  have hentry (description : String) : checkEntry (Sample.entryWith description) =
      .ok [⟨"", some "a.js", some ⟨1, 2⟩⟩, ⟨description, none, none⟩] := rfl
  have hne : List.replicate count '9' ≠ [] := by
    rw [Ne, List.replicate_eq_nil_iff]
    omega
  have hdigits : ∀ d ∈ List.replicate count '9', Text.isDigit d = true := by
    intro d hd
    rw [List.eq_of_mem_replicate hd]
    decide
  have hstops := @Stops.digits m (Sample.manyDigits count) _ _ _ (List.replicate count '9')
    (hentry _) (by
      rw [String.toList_ofList]
      exact arityDigits_lead_append hne hdigits)
    (by rwa [List.length_replicate])
  rwa [List.length_replicate] at hstops

/-- The report with U+0000 in a path can be read, and it can be indexed by base names only. -/
theorem readEntries_nullPath :
    ∃ entries, readEntries (Sample.reportStore Sample.nullPath) [] "errors.json" = .ok entries ∧
      Index.ofEntries [] .path entries = .error .nullInPath ∧
      ∃ index, Index.ofEntries [] .basename entries = .ok index := by
  have hboth : (entries? Sample.nullPath).map (fun entries =>
      (Index.ofEntries [] .path entries, (Index.ofEntries [] .basename entries).map Index.size)) =
      some (.error .nullInPath, .ok 2) := by
    rw [entries?, Sample.nullPath, Sample.reportOf, String.toList_ofList]
    decide +kernel
  obtain ⟨entries, hentries, hof⟩ := Option.map_eq_some_iff.mp hboth
  rw [Prod.mk.injEq] at hof
  refine ⟨entries, by rw [readEntries_reportStore, hentries], hof.1, ?_⟩
  cases hindex : Index.ofEntries [] .basename entries with
  | ok index => exact ⟨index, rfl⟩
  | error f =>
    rw [hindex] at hof
    cases hof.2

/-- A report that is not there, and one that is stopped by an entry if paths are compared as a
    whole. -/
theorem load_unless_stopped_null_path :
    load (Sample.reportStore Sample.nullPath) [] (some "gone.json") .path =
      .ok (.empty .path, .loadFailed "gone.json" .noFile) ∧
    ∃ entries, readEntries (Sample.reportStore Sample.nullPath) [] "errors.json" = .ok entries ∧
      (∃ entry ∈ entries, Stops .path entry .nullInPath) ∧
      ∃ index event, load (Sample.reportStore Sample.nullPath) [] (some "errors.json") .basename =
          .ok (index, event) ∧
        ∀ entry ∈ entries, ∀ e, Index.entryError? entry = .ok (some e) →
          ∃ es, index.recordsFor [] e.path = .ok es ∧ e ∈ es := by
  obtain ⟨entries, hread, hpath, index, hbasename⟩ := readEntries_nullPath
  have hgone : readEntries (Sample.reportStore Sample.nullPath) [] "gone.json" =
      .error .noFile := by
    have hfind : (Sample.reportStore Sample.nullPath).find [] (.ofString "gone.json") =
        .error .noFile := rfl
    simp only [readEntries, Store.readText, Store.read, hfind]
  have hload : load (Sample.reportStore Sample.nullPath) [] (some "errors.json") .path =
      .error .nullInPath := by
    rw [load_of_readEntries (by decide) hread, hpath]
    rfl
  have hfree : ∀ entry ∈ entries, ∀ f, ¬ Stops .basename entry f := by
    intro entry hentry f hstops
    have hnone := (Index.ofEntries_eq_ok_iff.mp hbasename).1 entry hentry
    rw [stop?_eq_some_iff.mpr hstops] at hnone
    cases hnone
  obtain ⟨_, hgeneral⟩ := load_unless_stopped (Sample.reportStore Sample.nullPath) []
    (some "gone.json") .path
  obtain ⟨_, hwhole⟩ := load_unless_stopped (Sample.reportStore Sample.nullPath) []
    (some "errors.json") .path
  obtain ⟨_, hnames⟩ := load_unless_stopped (Sample.reportStore Sample.nullPath) []
    (some "errors.json") .basename
  refine ⟨(hgeneral _ rfl (by decide)).1 _ hgone, entries, hread, ?_,
    ((hnames _ rfl (by decide)).2 entries hread).2 hfree⟩
  obtain ⟨before, entry, after, rfl, _, hstops⟩ :=
    (((hwhole _ rfl (by decide)).2 entries hread).1 _).mp hload
  exact ⟨entry, by simp, hstops⟩

/-- **One entry can keep all others out.** A path with U+0000 stops the loading of a report that is
    read without fault, and its other entry is not indexed. So does an arity of too many digits
    before another error, also if files are matched by base names. -/
theorem load_stopped_by_one_entry :
    load (Sample.reportStore Sample.nullPath) [] (some "errors.json") .path =
      .error .nullInPath ∧
    Index.ofEntries [] .basename [Sample.manyDigits 4301, Sample.manyDigits 1] =
      .error (.tooManyDigits 4301) := by
  constructor
  · obtain ⟨entries, hread, hpath, _⟩ := readEntries_nullPath
    rw [load_of_readEntries (by decide) hread, hpath]
    rfl
  · have hstop : stop? [] .basename (Sample.manyDigits 4301) = some (.tooManyDigits 4301) :=
      stop?_eq_some_iff.mpr (stops_manyDigits .basename (by decide))
    rw [Index.ofEntries_eq, List.findSome?_cons, hstop]

end ArityFill.Report
