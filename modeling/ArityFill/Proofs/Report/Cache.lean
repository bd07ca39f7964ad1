import ArityFill.Proofs.Report.Load
import ArityFill.Report.Cache

/-! # What a cache answers

    A cache is asked for reports and told to drop them, in any order, while the files on disk
    change. What it answers is compared with a description that has no state: `standing` finds, in
    everything that was asked of the cache so far, the first request for a report since it was last
    dropped at which the report could be loaded.

    - `Holds` relates a cache to a history: the cache has the standing indexes and nothing else,
    - `Holds.after` is the step, one request more,
    - `holds_replay` is the run, a whole history from an empty cache,
    - `Cache.get_first_loaded` says what follows for the answers.
-/

namespace ArityFill.Report

/-! ## Histories -/

/-- What is asked of a cache. A report is asked for in a file system and a directory of the moment,
    so anything may become of the files between two requests. -/
inductive Request where
  /-- The index of a report. -/
  | get (store : Store) (cwd : Location) (report : Option String) (m : Matching)
  /-- To drop a report, or everything. -/
  | invalidate (report : Option String)

namespace Request

/-- Whether a request drops what is kept of a report. -/
def drops (report : Option String) : Request → Bool
  | .get _ _ _ _ => false
  | .invalidate none => true
  | .invalidate (some dropped) => report = some dropped

/-- The index that is loaded if a request is for a key and its report can be loaded. -/
def load? (key : CacheKey) : Request → Option Index
  | .get store cwd report m =>
    if key = ⟨report, m⟩ then
      match load store cwd report m with
      | .ok (index, _) => some index
      | .error _ => none
    else none
  | .invalidate _ => none

end Request

/-- The requests since a report was last dropped. -/
def sinceDropped (report : Option String) (history : List Request) : List Request :=
  (history.reverse.takeWhile fun r => !r.drops report).reverse

/-- The index that stands for a key after some requests: that of the first request for it, since its
    report was last dropped, at which the report could be loaded. -/
def standing (history : List Request) (key : CacheKey) : Option Index :=
  (sinceDropped key.report history).findSome? (Request.load? key)

namespace Cache

/-- The cache after a request. A fault while loading leaves it as it was. -/
def after (c : Cache) : Request → Cache
  | .get store cwd report m =>
    match c.get store cwd report m with
    | .ok answer => answer.cache
    | .error _ => c
  | .invalidate report => (c.invalidate report).1

/-- The cache after some requests, made to an empty one. -/
def replay (history : List Request) : Cache :=
  history.foldl after {}

theorem replay_concat (history : List Request) (r : Request) :
    replay (history ++ [r]) = (replay history).after r := by
  simp [replay]

end Cache

/-- What stands after one request more: nothing if it drops the key, else what stood before, or what
    the request loads. -/
theorem standing_concat (history : List Request) (r : Request) (key : CacheKey) :
    standing (history ++ [r]) key =
      if r.drops key.report then none else (standing history key).or (r.load? key) := by
  unfold standing sinceDropped
  rw [List.reverse_append, List.reverse_singleton, List.singleton_append, List.takeWhile_cons]
  -- Read backwards, the new request is the first one, so it decides whether to look any further.
  by_cases hdrops : r.drops key.report = true
  · simp [hdrops]
  · simp [hdrops, List.findSome?_append]

/-! ## What one request does -/

theorem load_matching {store : Store} {cwd : Location} {report : Option String} {m : Matching}
    {index : Index} {event : Event} (h : load store cwd report m = .ok (index, event)) :
    index.matching = m := by
  unfold load at h
  split at h
  · cases h
    rfl
  · split at h
    · cases h
      rfl
    · split at h
      · cases h
        rfl
      · split at h
        · cases h
        · next hof =>
          cases h
          obtain ⟨_, rfl⟩ := Index.ofEntries_eq_ok_iff.mp hof
          rfl

/-- The three ways in which a question can go: the index is there, or it is loaded and put behind
    the others, or loading it is stopped. -/
theorem Cache.get_cases (c : Cache) (store : Store) (cwd : Location) (report : Option String)
    (m : Matching) :
    (∃ found, c.entries.lookup ⟨report, m⟩ = some found ∧
      c.get store cwd report m = .ok ⟨found, c, []⟩) ∨
    c.entries.lookup ⟨report, m⟩ = none ∧
      ((∃ index event, load store cwd report m = .ok (index, event) ∧
        c.get store cwd report m = .ok ⟨⟨index, c.loads⟩,
          ⟨c.entries ++ [(⟨report, m⟩, ⟨index, c.loads⟩)], c.loads + 1⟩, [event]⟩) ∨
       ∃ f, load store cwd report m = .error f ∧ c.get store cwd report m = .error f) := by
  cases hlookup : c.entries.lookup ⟨report, m⟩ with
  | some found => exact .inl ⟨found, rfl, by simp only [get, hlookup]⟩
  | none =>
    refine .inr ⟨rfl, ?_⟩
    cases hload : load store cwd report m with
    | error f => exact .inr ⟨f, rfl, by simp only [get, hlookup, hload]⟩
    | ok r => exact .inl ⟨r.1, r.2, rfl, by simp only [get, hlookup, hload]⟩

theorem lookup_cons_of_ne {key k : CacheKey} (h : key ≠ k) (found : Loaded)
    (entries : List (CacheKey × Loaded)) :
    ((k, found) :: entries).lookup key = entries.lookup key := by
  have hother : (key == k) = false := by simpa using h
  simp only [List.lookup_cons, hother]

/-- An answer changes no entry but that of the key that was asked for. -/
theorem Cache.lookup_get_of_ne {c : Cache} {store : Store} {cwd : Location}
    {report : Option String} {m : Matching} {answer : Answer}
    (h : c.get store cwd report m = .ok answer) {key : CacheKey} (hkey : key ≠ ⟨report, m⟩) :
    answer.cache.entries.lookup key = c.entries.lookup key := by
  rcases c.get_cases store cwd report m with
    ⟨found, _, hget⟩ | ⟨_, ⟨index, event, _, hget⟩ | ⟨f, _, hget⟩⟩
  · rw [hget] at h
    cases h
    rfl
  · rw [hget] at h
    cases h
    rw [List.lookup_append, lookup_cons_of_ne hkey, List.lookup_nil, Option.or_none]
  · rw [hget] at h
    cases h

/-- Looking up a key among the entries whose keys are kept. -/
theorem lookup_filter_key (keep : CacheKey → Bool) (entries : List (CacheKey × Loaded))
    (key : CacheKey) :
    (entries.filter fun e => keep e.1).lookup key =
      if keep key then entries.lookup key else none := by
  induction entries with
  | nil => simp
  | cons e entries ih =>
    obtain ⟨k, found⟩ := e
    by_cases hsame : key = k
    · subst hsame
      by_cases hkeep : keep key = true
      · simp [hkeep]
      · simp [hkeep, ih]
    · rw [lookup_cons_of_ne hsame, ← ih, List.filter_cons]
      split
      · exact lookup_cons_of_ne hsame found _
      · rfl

/-- Dropping a report drops its index under either way to match, and no other. -/
theorem Cache.lookup_drop (c : Cache) (report : String) (key : CacheKey) :
    (c.drop report).entries.lookup key =
      if key.report = some report then none else c.entries.lookup key := by
  have hfilter := lookup_filter_key (fun k => k.report ≠ some report) c.entries key
  unfold Cache.drop
  rw [hfilter]
  by_cases h : key.report = some report <;> simp [h]

/-! ## The invariant -/

/-- A cache has what stands after a history. -/
structure Holds (history : List Request) (c : Cache) : Prop where
  /-- Under each key it has the index that stands for it. -/
  lookup : ∀ key, (c.entries.lookup key).map Loaded.index = standing history key
  /-- No key is there twice. -/
  nodup : (c.entries.map Prod.fst).Nodup
  /-- An index is matched as its key says. -/
  matching : ∀ e ∈ c.entries, e.2.index.matching = e.1.matching

theorem Holds.initial : Holds [] {} :=
  ⟨fun _ => rfl, List.nodup_nil, fun _ he => nomatch he⟩

/-- Asking keeps the invariant. -/
theorem Holds.get {history : List Request} {c : Cache} (h : Holds history c) (store : Store)
    (cwd : Location) (report : Option String) (m : Matching) :
    Holds (history ++ [.get store cwd report m]) (c.after (.get store cwd report m)) := by
  rcases c.get_cases store cwd report m with
    ⟨found, hfound, hget⟩ | ⟨hmissing, ⟨index, event, hload, hget⟩ | ⟨f, hload, hget⟩⟩
  · -- It is there, so nothing changes, and the new request comes too late to count.
    have hafter : c.after (.get store cwd report m) = c := by simp only [Cache.after, hget]
    rw [hafter]
    refine ⟨fun key => ?_, h.nodup, h.matching⟩
    rw [standing_concat, ← h.lookup key]
    by_cases hkey : key = ⟨report, m⟩
    · simp [Request.drops, hkey, hfound]
    · simp [Request.drops, Request.load?, hkey]
  · -- It is loaded, which is the first time since its report was dropped.
    have hafter : c.after (.get store cwd report m) =
        ⟨c.entries ++ [(⟨report, m⟩, ⟨index, c.loads⟩)], c.loads + 1⟩ := by
      simp only [Cache.after, hget]
    rw [hafter]
    refine ⟨fun key => ?_, ?_, ?_⟩
    · rw [standing_concat, ← h.lookup key]
      by_cases hkey : key = ⟨report, m⟩
      · simp [Request.drops, Request.load?, hkey, hmissing, hload, List.lookup_append]
      · simp [Request.drops, Request.load?, hkey, List.lookup_append, lookup_cons_of_ne hkey]
    · have hnew : (⟨report, m⟩ : CacheKey) ∉ c.entries.map Prod.fst := by
        intro hmem
        obtain ⟨e, he, hkey⟩ := List.mem_map.mp hmem
        have hne := List.lookup_eq_none_iff.mp hmissing e he
        simp [hkey] at hne
      rw [List.map_append, List.map_singleton, ← List.concat_eq_append]
      exact List.Nodup.concat hnew h.nodup
    · intro e he
      rcases List.mem_append.mp he with he | he
      · exact h.matching e he
      · rw [List.mem_singleton] at he
        subst he
        exact load_matching hload
  · -- Loading is stopped, so nothing changes, and there is nothing new to stand.
    have hafter : c.after (.get store cwd report m) = c := by simp only [Cache.after, hget]
    rw [hafter]
    refine ⟨fun key => ?_, h.nodup, h.matching⟩
    rw [standing_concat, ← h.lookup key]
    simp [Request.drops, Request.load?, hload]

/-- Dropping keeps the invariant. -/
theorem Holds.invalidate {history : List Request} {c : Cache} (h : Holds history c)
    (report : Option String) :
    Holds (history ++ [.invalidate report]) (c.after (.invalidate report)) := by
  cases report with
  | none =>
    refine ⟨fun key => ?_, List.nodup_nil, fun _ he => nomatch he⟩
    rw [standing_concat]
    rfl
  | some report =>
    refine ⟨fun key => ?_, ?_, ?_⟩
    · show ((c.drop report).entries.lookup key).map Loaded.index = _
      rw [c.lookup_drop, standing_concat, ← h.lookup key]
      by_cases hkey : key.report = some report <;> simp [Request.drops, Request.load?, hkey]
    · exact h.nodup.sublist (List.filter_sublist.map _)
    · intro e he
      exact h.matching e (List.mem_filter.mp he).1

/-- One request keeps the invariant. -/
theorem Holds.after {history : List Request} {c : Cache} (h : Holds history c) (r : Request) :
    Holds (history ++ [r]) (c.after r) := by
  cases r with
  | get store cwd report m => exact h.get store cwd report m
  | invalidate report => exact h.invalidate report

/-- After any history the cache has what stands. -/
theorem holds_replay (history : List Request) : Holds history (.replay history) := by
  induction history using List.reverseRecOn with
  | nil => exact .initial
  | append_singleton history r ih =>
    rw [Cache.replay_concat]
    exact ih.after r

/-- The keys of a cache are those for which an index stands. -/
theorem Holds.mem_keys_iff {history : List Request} {c : Cache} (h : Holds history c)
    (key : CacheKey) :
    key ∈ c.entries.map Prod.fst ↔ (standing history key).isSome = true := by
  rw [← h.lookup key, Option.isSome_map, ← not_iff_not, Bool.not_eq_true,
    Option.isSome_eq_false_iff, Option.isNone_iff_eq_none, List.lookup_eq_none_iff]
  simp only [List.mem_map, not_exists, not_and, bne_iff_ne, ne_eq]
  exact forall₂_congr fun e _ => ⟨fun hne heq => hne heq.symm, fun hne heq => hne heq.symm⟩

/-- A cache contains the reports for which an index stands, however they are matched. -/
theorem Holds.contains_iff {history : List Request} {c : Cache} (h : Holds history c)
    (report : Option String) :
    c.contains report = true ↔ ∃ m, (standing history ⟨report, m⟩).isSome = true := by
  unfold Cache.contains
  rw [List.any_eq_true]
  simp only [← h.mem_keys_iff, List.mem_map]
  constructor
  · rintro ⟨e, he, hreport⟩
    rw [decide_eq_true_eq] at hreport
    subst hreport
    exact ⟨e.1.matching, e, he, rfl⟩
  · rintro ⟨m, e, he, hkey⟩
    exact ⟨e, he, by simp [hkey]⟩

/-! ## Answers -/

/-- **A cache answers with what was loaded first.** After any history, let a report be asked for.

    - If an index stands for it, that index is the answer, whatever the files are now: nothing is
      loaded, and the cache stays as it is.
    - If none stands, the report is loaded. A fault is handed on and leaves the cache as it is, and
      else the answer is the index that was loaded, be it empty.

    An answer changes no other entry, and dropping a report removes its entries and no others. The
    indexes are matched as their keys say. The reports that the cache contains, and their number,
    are those for which an index stands. -/
theorem Cache.get_first_loaded (history : List Request) (store : Store) (cwd : Location)
    (report : Option String) (m : Matching) :
    let c := Cache.replay history
    (∀ index, standing history ⟨report, m⟩ = some index →
      ∃ number, ∀ store' cwd', c.get store' cwd' report m = .ok ⟨⟨index, number⟩, c, []⟩) ∧
    (standing history ⟨report, m⟩ = none →
      (∀ f, load store cwd report m = .error f →
        c.get store cwd report m = .error f ∧
        Cache.replay (history ++ [.get store cwd report m]) = c) ∧
      ∀ index event, load store cwd report m = .ok (index, event) →
        ∃ answer, c.get store cwd report m = .ok answer ∧ answer.found = ⟨index, c.loads⟩ ∧
          answer.events = [event] ∧ answer.cache.loads = c.loads + 1) ∧
    (∀ answer, c.get store cwd report m = .ok answer → ∀ key, key ≠ ⟨report, m⟩ →
      answer.cache.entries.lookup key = c.entries.lookup key) ∧
    (∀ dropped key, (c.invalidate (some dropped)).1.entries.lookup key =
      if key.report = some dropped then none else c.entries.lookup key) ∧
    (∀ e ∈ c.entries, e.2.index.matching = e.1.matching) ∧
    (∀ report', c.contains report' = true ↔ ∃ m', (standing history ⟨report', m'⟩).isSome = true) ∧
    ∃ keys : List CacheKey, keys.Nodup ∧ c.size = keys.length ∧
      ∀ key, key ∈ keys ↔ (standing history key).isSome = true := by
  intro c
  have hholds : Holds history c := holds_replay history
  have hlookup := hholds.lookup ⟨report, m⟩
  refine ⟨?_, ?_, fun answer hanswer key => Cache.lookup_get_of_ne hanswer, c.lookup_drop,
    hholds.matching, hholds.contains_iff, ?_⟩
  · intro index hstanding
    rw [hstanding] at hlookup
    obtain ⟨found, hfound, rfl⟩ := Option.map_eq_some_iff.mp hlookup
    refine ⟨found.number, fun store' cwd' => ?_⟩
    simp only [Cache.get, hfound]
  · intro hstanding
    rw [hstanding, Option.map_eq_none_iff] at hlookup
    constructor
    · intro f hload
      have hget : c.get store cwd report m = .error f := by simp only [Cache.get, hlookup, hload]
      refine ⟨hget, ?_⟩
      rw [Cache.replay_concat]
      show c.after (.get store cwd report m) = c
      simp only [Cache.after, hget]
    · intro index event hload
      have hget : c.get store cwd report m = .ok ⟨⟨index, c.loads⟩,
          ⟨c.entries ++ [(⟨report, m⟩, ⟨index, c.loads⟩)], c.loads + 1⟩, [event]⟩ := by
        simp only [Cache.get, hlookup, hload]
      exact ⟨_, hget, rfl, rfl, rfl⟩
  · exact ⟨c.entries.map Prod.fst, hholds.nodup, by simp [Cache.size], hholds.mem_keys_iff⟩

end ArityFill.Report

namespace ArityFill.Sample

open Report (Index)

/-- A report with one arity error. -/
def oneError : String :=
  reportOf [entry "a.js" "10" "13" (needs "2")]

/-- The index of that report. -/
def oneErrorIndex : Index :=
  ⟨[("a.js", [⟨"a.js", 10, 13, 2⟩])], .basename, 1⟩

end ArityFill.Sample

namespace ArityFill.Report

/-- A report that is not there yet is loaded as the empty index, which is the answer also after the
    report has been written. Once it is dropped, the report is loaded as it is. -/
theorem Cache.get_first_loaded_written_late :
    let key : CacheKey := ⟨some "errors.json", .basename⟩
    let asked := [Request.get ⟨[], []⟩ [] key.report key.matching]
    let dropped := asked ++ [.invalidate key.report]
    let written := Sample.reportStore Sample.oneError
    standing asked key = some (.empty .basename) ∧ standing dropped key = none ∧
    (∃ number, (replay asked).get written [] key.report key.matching =
      .ok ⟨⟨.empty .basename, number⟩, replay asked, []⟩) ∧
    ∃ answer, (replay dropped).get written [] key.report key.matching = .ok answer ∧
      answer.found.index = Sample.oneErrorIndex := by
  intro key asked dropped written
  have hgone : load ⟨[], []⟩ [] key.report key.matching =
      .ok (.empty .basename, .loadFailed "errors.json" .noFile) :=
    load_of_readEntries_error (by decide) rfl
  have hasked : standing asked key = some (.empty .basename) := by
    simp [asked, standing, sinceDropped, Request.drops, Request.load?, hgone, key]
  have hdropped : standing dropped key = none := by
    simp [dropped, standing_concat, Request.drops, key]
  have hload : ∃ event, load written [] key.report key.matching =
      .ok (Sample.oneErrorIndex, event) := by
    have hindex : (entries? Sample.oneError).map (Index.ofEntries [] .basename) =
        some (.ok Sample.oneErrorIndex) := by
      rw [entries?, Sample.oneError, Sample.reportOf, String.toList_ofList]
      decide +kernel
    obtain ⟨entries, hentries, hof⟩ := Option.map_eq_some_iff.mp hindex
    have hread : readEntries written [] "errors.json" = .ok entries := by
      rw [readEntries_reportStore, hentries]
    refine ⟨.loaded 1 1 "errors.json", ?_⟩
    show load written [] (some "errors.json") .basename = _
    rw [load_of_readEntries (by decide) hread, hof]
    rfl
  obtain ⟨event, hload⟩ := hload
  obtain ⟨hkept, _⟩ := Cache.get_first_loaded asked written [] key.report key.matching
  obtain ⟨number, hnumber⟩ := hkept _ hasked
  obtain ⟨_, hfresh, _⟩ := Cache.get_first_loaded dropped written [] key.report key.matching
  obtain ⟨answer, hanswer, hfound, _⟩ := (hfresh hdropped).2 _ _ hload
  exact ⟨hasked, hdropped, ⟨number, hnumber written []⟩, answer, hanswer, by rw [hfound]⟩

end ArityFill.Report
