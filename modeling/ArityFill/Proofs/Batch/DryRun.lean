import ArityFill.Command.Run
import ArityFill.Proofs.Batch.Independent

/-! # What a dry run foretells

    A dry run and a real run look at the same files in the same order and under the same index. They
    differ in what a visit finds: a dry run finds the bytes of the start, and a real run finds what
    its own earlier visits have made of them. `contentAfter` says what that is, the invariant
    `Traced` ties it to the store, and so both runs come to known outcomes.

    They come to the same outcomes if no file is reached again after it was filled in. A file that
    is, because it is listed twice or lies in a folder that is listed as well, can be counted twice
    by a dry run and once by a real one: `dryRun_counts_repeated_file`. If a fault ended the search
    for files, neither run gives outcomes back, and both give back that fault.
-/

namespace ArityFill

open Report (Index)

namespace Batch

/-! ## What a visit finds -/

/-- What a file holds after some files have been filled in and written back, by what it held
    before. -/
def contentAfter (w : Workspace) (o : Options) (index : Except Fault Index) (ts : List Target)
    (loc : Location) (content : Bytes) : Bytes :=
  ts.foldl (fun now t => if t.loc = loc then (verdict w o index t.path now).new.getD now else now)
    content

/-- What a visit finds in a file after some files have been visited. -/
def contentAt (w : Workspace) (o : Options) (dryRun : Bool) (index : Except Fault Index)
    (ts : List Target) (loc : Location) (content : Bytes) : Bytes :=
  if dryRun then content else contentAfter w o index ts loc content

/-- The outcome of a visit after some files have been visited. -/
def Target.outcomeAfter (w : Workspace) (o : Options) (dryRun : Bool) (index : Except Fault Index)
    (ts : List Target) (t : Target) : Outcome :=
  ⟨t.path, (verdict w o index t.path (contentAt w o dryRun index ts t.loc t.content)).status⟩

/-- The outcomes of visits one after the other. -/
def outcomesOf (w : Workspace) (o : Options) (dryRun : Bool) (index : Except Fault Index)
    (ts : List Target) : List Outcome :=
  ts.mapIdx fun i t => t.outcomeAfter w o dryRun index (ts.take i)

section
variable {w : Workspace} {o : Options} {dryRun : Bool} {start : Store} {index : Except Fault Index}
  {s : State} {ts : List Target}

theorem contentAfter_concat (ts : List Target) (t : Target) (loc : Location) (content : Bytes) :
    contentAfter w o index (ts ++ [t]) loc content =
      if t.loc = loc then
        (verdict w o index t.path (contentAfter w o index ts loc content)).new.getD
          (contentAfter w o index ts loc content)
      else contentAfter w o index ts loc content := by
  rw [contentAfter, List.foldl_append, List.foldl_cons, List.foldl_nil, ← contentAfter]

/-- A file that nothing is written to keeps its content. -/
theorem contentAfter_of_new_eq_none {loc : Location} {content : Bytes}
    (h : ∀ t ∈ ts, t.loc = loc → (verdict w o index t.path content).new = none) :
    contentAfter w o index ts loc content = content := by
  induction ts with
  | nil => rfl
  | cons t ts ih =>
    have hfirst : (if t.loc = loc then (verdict w o index t.path content).new.getD content
        else content) = content := by
      split
      · next hloc => rw [h t List.mem_cons_self hloc, Option.getD_none]
      · rfl
    rw [contentAfter, List.foldl_cons, hfirst, ← contentAfter]
    exact ih fun u hu => h u (List.mem_cons_of_mem _ hu)

theorem outcomesOf_concat (ts : List Target) (t : Target) :
    outcomesOf w o dryRun index (ts ++ [t]) =
      outcomesOf w o dryRun index ts ++ [t.outcomeAfter w o dryRun index ts] := by
  have hsame : ts.mapIdx (fun i u => u.outcomeAfter w o dryRun index ((ts ++ [t]).take i)) =
      outcomesOf w o dryRun index ts := by
    rw [outcomesOf, List.mapIdx_eq_mapIdx_iff]
    intro i hi
    rw [List.take_append_of_le_length (Nat.le_of_lt hi)]
  rw [outcomesOf, List.mapIdx_concat, hsame, List.take_left]

/-! ## A batch with its history -/

/-- A batch that has visited some files: every file holds what the visits have made of it, and each
    visit has the outcome of what it found. -/
structure Traced (w : Workspace) (o : Options) (dryRun : Bool) (start : Store)
    (index : Except Fault Index) (ts : List Target) (s : State) : Prop
    extends Ongoing w o dryRun start index s where
  /-- The content of each file. -/
  content : ∀ loc content, start.get? loc = some (.file content) →
    s.store.get? loc = some (.file (contentAt w o dryRun index ts loc content))
  /-- The outcome of each visit. -/
  outcomes : s.outcomes = outcomesOf w o dryRun index ts

theorem Traced.initial (store : Store) (cache : Report.Cache) :
    Traced w o dryRun store (indexFor cache store w.cwd o) [] (.initial store cache) where
  toOngoing := .initial store cache
  content loc content h := by
    rw [contentAt]
    cases dryRun <;> exact h
  outcomes := rfl

/-- Settling a file makes its content what it is after one more visit. -/
theorem get?_settle_contentAt {store : Store} {t : Target} {l : Location} {old : Bytes}
    (hget : store.get? l = some (.file (contentAt w o dryRun index ts l old)))
    (hcontent : t.loc = l → t.content = old) :
    (settle dryRun store t.loc (verdict w o index t.path
      (contentAt w o dryRun index ts t.loc t.content))).get? l =
      some (.file (contentAt w o dryRun index (ts ++ [t]) l old)) := by
  cases dryRun with
  | true => exact hget
  | false =>
    by_cases hloc : t.loc = l
    · -- The file itself gets what the verdict about its present content says.
      subst hloc
      rw [hcontent rfl]
      refine (Store.get?_update_self _ hget).trans ?_
      simp only [contentAt, Bool.false_eq_true, if_false, contentAfter_concat, if_true]
    · rw [get?_settle_of_ne _ (Ne.symm hloc), hget]
      simp only [contentAt, Bool.false_eq_true, if_false, contentAfter_concat, if_neg hloc]

/-- A visit to a file adds it to the history. -/
theorem Traced.visitFile (h : Traced w o dryRun start index ts s) {p : Path} {loc : Location}
    {content : Bytes} (hfind : start.find w.cwd p = .ok (loc, .file content)) :
    Traced w o dryRun start index (ts ++ [⟨p, loc, content⟩]) (visitFile w o dryRun s p) := by
  obtain ⟨now, _, hget, houtcomes, hstore, _⟩ := h.toOngoing.visitFile_spec hfind
  obtain ⟨_, _, _, hstart⟩ := Store.find_eq_ok_iff.mp hfind
  -- The visit finds what the history says.
  have hnow : now = contentAt w o dryRun index ts loc content := by
    have hsame := h.content loc content hstart
    rw [hget] at hsame
    simpa using hsame
  subst hnow
  refine ⟨h.toOngoing.visitFile hfind, ?_, ?_⟩
  · intro l old hl
    rw [hstore]
    refine get?_settle_contentAt (t := ⟨p, loc, content⟩) (h.content l old hl) ?_
    rintro rfl
    rw [hstart] at hl
    simpa using hl
  · rw [houtcomes, h.outcomes, outcomesOf_concat]
    rfl

/-- A whole batch adds its files to the history. -/
theorem Traced.visitAll (h : Traced w o dryRun start index ts s) {found : List Found}
    (hthere : AllThere start w.cwd found) :
    Traced w o dryRun start index (ts ++ targets start w.cwd found)
      (visitAll w o dryRun s found) := by
  -- The history grows at its end, so it is generalised with the state.
  induction found generalizing ts s with
  | nil =>
    rw [targets, List.filterMap_nil, List.append_nil]
    exact h
  | cons f found ih =>
    have hrest : AllThere start w.cwd found := fun p hp => hthere p (List.mem_cons_of_mem _ hp)
    cases f with
    | nothing p =>
      have htold : Traced w o dryRun start index ts (visit w o dryRun s (.nothing p)) :=
        ⟨⟨h.shape, h.sameIndex, h.dry, h.changed⟩, h.content, h.outcomes⟩
      exact ih htold hrest
    | file p =>
      obtain ⟨loc, content, hfind⟩ := hthere p List.mem_cons_self
      have hnext := ih (h.visitFile hfind) hrest
      rw [List.append_assoc, List.singleton_append] at hnext
      rw [targets, List.filterMap_cons_some (target?_of_find hfind)]
      exact hnext

/-- What a run gives back, if it gives back outcomes, are those of its files one after the other. -/
theorem run_returned_outcomesOf {store : Store} (hs : store.WellFormed) {cache : Report.Cache}
    {ignored paths : List String} (hnone : (collect store w.cwd ignored paths).fault = none) :
    (run w store cache o dryRun ignored paths).returned =
      .ok (outcomesOf w o dryRun (indexFor cache store w.cwd o)
        (targets store w.cwd (collect store w.cwd ignored paths).found)) := by
  have hthere : AllThere store w.cwd (collect store w.cwd ignored paths).found :=
    fun _ hp => collect_file hs hp
  have htraced := (@Traced.initial w o dryRun store cache).visitAll hthere
  exact run_returned_eq_ok_iff.mpr ⟨hnone, htraced.outcomes⟩

/-! ## Dry and real runs -/

/-- A dry run has the outcomes that its files have alone. -/
theorem outcomesOf_dryRun (ts : List Target) :
    outcomesOf w o true index ts = ts.map (Target.outcome w o index) :=
  List.mapIdx_eq_iff.mpr fun _ => List.getElem?_map

/-- A dry run has the outcomes of the real run exactly if every visit comes to the same status by
    what it finds as by what was there at the start. -/
theorem outcomesOf_dryRun_eq_iff :
    outcomesOf w o true index ts = outcomesOf w o false index ts ↔
      ∀ (i : Nat) (t : Target), ts[i]? = some t →
        (verdict w o index t.path
          (contentAfter w o index (ts.take i) t.loc t.content)).status =
        (t.alone w o index).status := by
  rw [outcomesOf, outcomesOf, List.mapIdx_eq_mapIdx_iff]
  constructor
  · intro h i t ht
    obtain ⟨hi, rfl⟩ := List.getElem?_eq_some_iff.mp ht
    exact (congrArg Outcome.status (h i hi)).symm
  · intro h i hi
    exact congrArg (Outcome.mk _) (h i ts[i] (List.getElem?_eq_getElem hi)).symm

/-- A file that is visited is where its path leads. -/
theorem get?_of_mem_targets {store : Store} {cwd : Location} {found : List Found} {t : Target}
    (h : t ∈ targets store cwd found) : store.get? t.loc = some (.file t.content) := by
  obtain ⟨f, _, hf⟩ := List.mem_filterMap.mp h
  cases f with
  | nothing p => cases hf
  | file p =>
    simp only [target?] at hf
    split at hf
    · next loc content hfind =>
      cases hf
      exact (Store.find_eq_ok_iff.mp hfind).2.2.2
    · cases hf

/-- A visit finds what was there at the start, if no file is reached again after it was filled
    in. -/
theorem contentAfter_eq_content {start : Store}
    (hget : ∀ t ∈ ts, start.get? t.loc = some (.file t.content))
    (honce : ts.Pairwise fun u t => u.loc = t.loc → ∀ n, (u.alone w o index).status ≠ .filled n)
    {j : Nat} {t : Target} (ht : ts[j]? = some t) :
    contentAfter w o index (ts.take j) t.loc t.content = t.content := by
  apply contentAfter_of_new_eq_none
  intro u hu hloc
  obtain ⟨i, hi, rfl⟩ := List.mem_take_iff_getElem.mp hu
  obtain ⟨hj, rfl⟩ := List.getElem?_eq_some_iff.mp ht
  have hnever := List.pairwise_iff_getElem.mp honce i j (by omega) hj (by omega) hloc
  -- Two visits to a file start from the same content.
  have hcontent : ts[i].content = ts[j].content := by
    have hstart := hget ts[i] (List.getElem_mem _)
    rw [hloc, hget ts[j] (List.getElem_mem hj)] at hstart
    simpa using hstart.symm
  rw [← hcontent]
  by_contra hnew
  obtain ⟨bytes, hbytes⟩ := Option.ne_none_iff_exists'.mp hnew
  obtain ⟨n, _, _, hstatus, _⟩ := verdict_new hbytes
  exact hnever n hstatus

end

end Batch

/-! ## What is printed -/

namespace Command

/-- Exits that differ in one word: what would be rewritten according to the one was rewritten
    according to the other. -/
structure Exit.Foretells (dry real : Exit) : Prop where
  /-- They have the same exit code. -/
  code : dry.code = real.code
  /-- They were stopped by the same fault, or both were not. -/
  fault : dry.fault = real.fault
  /-- They list the same files and have the same totals. -/
  output : dry.fault = none → ∃ (table rest : List String) (total filled files : Nat),
    dry.output = table ++
      [s!"Would rewrite {total} type reference(s) in {filled} of {files} file(s)"] ++ rest ∧
    real.output = table ++
      [s!"Rewrote {total} type reference(s) in {filled} of {files} file(s)"] ++ rest

/-- Summaries of the same outcomes differ in one word. -/
theorem summary_foretells (outcomes : List Batch.Outcome) (events events' : List Event)
    (store store' : Store) :
    (exitWith (summary true outcomes) events store).Foretells
      (exitWith (summary false outcomes) events' store') := by
  simp only [summary]
  -- The table does not depend on what kind of run it was.
  generalize (if ((outcomes.filter isFilled).map fun o =>
    [o.path.text, toString (filledCount o)]).isEmpty = true then Except.ok [] else _) = table
  cases table with
  | error f => exact ⟨rfl, rfl, fun h => by cases h⟩
  | ok table => exact ⟨rfl, rfl, fun _ => ⟨table, _, _, _, _, rfl, rfl⟩⟩

/-- Runs that give back the same print the same, but for one word. -/
theorem fulfil_run_foretells {w : Workspace} {store : Store} {o : Options}
    {ignored paths : List String}
    (h : (Batch.run w store {} o true ignored paths).returned =
      (Batch.run w store {} o false ignored paths).returned) :
    (fulfil w store (.run paths o ignored true)).Foretells
      (fulfil w store (.run paths o ignored false)) := by
  simp only [fulfil, h]
  cases (Batch.run w store {} o false ignored paths).returned with
  | error f => exact ⟨rfl, rfl, fun h => by cases h⟩
  | ok outcomes => exact summary_foretells _ _ _ _ _

/-- The last line that a run prints is that of its summary. -/
theorem getLast?_output_fulfil_run {w : Workspace} {store : Store} {o : Options} {dryRun : Bool}
    {ignored paths : List String} {outcomes : List Batch.Outcome} {line : String}
    (hreturned : (Batch.run w store {} o dryRun ignored paths).returned = .ok outcomes)
    (hline : (summary dryRun outcomes).map List.getLast? = .ok (some line)) :
    (fulfil w store (.run paths o ignored dryRun)).output.getLast? = some line := by
  simp only [fulfil, hreturned, Except.bind]
  cases hsummary : summary dryRun outcomes with
  | error f =>
    rw [hsummary] at hline
    cases hline
  | ok lines =>
    rw [hsummary] at hline
    exact Except.ok.inj hline

end Command

namespace Batch

/-- **When a dry run foretells the real run.** Both visit the same files, and if the search for them
    is ended by a fault, both give back that fault. Else the dry run tells of each file what filling
    it in alone comes to, and the real run what filling in comes to after all that the visits before
    have made of the file. They tell the same exactly if these agree for every visit, and so in
    particular if no file is reached again after it was filled in. If they tell the same, then the
    lines that are printed have the same totals. -/
theorem dryRun_foretells_iff (w : Workspace) (store : Store) (o : Options)
    (ignored paths : List String) :
    let index := indexFor {} store w.cwd o
    let collected := collect store w.cwd ignored paths
    let visited := targets store w.cwd collected.found
    let dry := run w store {} o true ignored paths
    let real := run w store {} o false ignored paths
    store.WellFormed →
    (∀ f, collected.fault = some f → dry.returned = .error f ∧ real.returned = .error f) ∧
    (collected.fault = none → ∃ foretold told,
      dry.returned = .ok foretold ∧ real.returned = .ok told ∧
      foretold.map Outcome.path = told.map Outcome.path ∧
      foretold = visited.map (Target.outcome w o index) ∧
      ∀ (i : Nat) (t : Target), visited[i]? = some t →
        told[i]? = some ⟨t.path, (verdict w o index t.path
          (contentAfter w o index (visited.take i) t.loc t.content)).status⟩) ∧
    (dry.returned = real.returned ↔ collected.fault ≠ none ∨
      ∀ (i : Nat) (t : Target), visited[i]? = some t →
        (verdict w o index t.path
          (contentAfter w o index (visited.take i) t.loc t.content)).status =
        (t.alone w o index).status) ∧
    ((visited.Pairwise fun u t =>
      u.loc = t.loc → ∀ n, (u.alone w o index).status ≠ .filled n) →
      dry.returned = real.returned) ∧
    (dry.returned = real.returned →
      (Command.fulfil w store (.run paths o ignored true)).Foretells
        (Command.fulfil w store (.run paths o ignored false))) := by
  intro index collected visited dry real hs
  have hfault : ∀ f, collected.fault = some f →
      dry.returned = .error f ∧ real.returned = .error f := fun f hf =>
    ⟨run_returned_eq_error_iff.mpr hf, run_returned_eq_error_iff.mpr hf⟩
  have hsame : dry.returned = real.returned ↔ collected.fault ≠ none ∨
      ∀ (i : Nat) (t : Target), visited[i]? = some t →
        (verdict w o index t.path
          (contentAfter w o index (visited.take i) t.loc t.content)).status =
        (t.alone w o index).status := by
    cases hcase : collected.fault with
    | some f =>
      obtain ⟨hdry, hreal⟩ := hfault f hcase
      simp [hdry, hreal]
    | none =>
      have hdry : dry.returned = _ := run_returned_outcomesOf hs hcase
      have hreal : real.returned = _ := run_returned_outcomesOf hs hcase
      rw [hdry, hreal, Except.ok.injEq, outcomesOf_dryRun_eq_iff]
      exact (or_iff_right fun hsome => hsome rfl).symm
  refine ⟨hfault, ?_, hsame, ?_, Command.fulfil_run_foretells⟩
  · intro hnone
    have hdry : dry.returned = _ := run_returned_outcomesOf hs hnone
    have hreal : real.returned = _ := run_returned_outcomesOf hs hnone
    refine ⟨_, _, hdry, hreal, ?_, outcomesOf_dryRun visited, ?_⟩
    · rw [map_path_of_returned hdry, map_path_of_returned hreal]
    · intro i t ht
      rw [outcomesOf, List.getElem?_mapIdx, ht]
      rfl
  · intro honce
    refine hsame.mpr (.inr fun i t ht => ?_)
    rw [contentAfter_eq_content (fun _ => get?_of_mem_targets) honce ht]
    rfl

/-- A file that is filled in once and one that is no text twice. The statement has no abbreviations,
    because they would make the kernel compute the runs. -/
theorem dryRun_foretells_project :
    Sample.project.WellFormed ∧
    (run Sample.workspace Sample.project {} Sample.options true []
      ["Foo.js", "bad.js", "bad.js"]).returned =
      .ok [⟨.ofString "Foo.js", .filled 1⟩, ⟨.ofString "bad.js", .unreadable⟩,
        ⟨.ofString "bad.js", .unreadable⟩] ∧
    (run Sample.workspace Sample.project {} Sample.options true []
      ["Foo.js", "bad.js", "bad.js"]).returned =
      (run Sample.workspace Sample.project {} Sample.options false []
        ["Foo.js", "bad.js", "bad.js"]).returned ∧
    (Command.fulfil Sample.workspace Sample.project
      (.run ["Foo.js", "bad.js", "bad.js"] Sample.options [] true)).Foretells
      (Command.fulfil Sample.workspace Sample.project
        (.run ["Foo.js", "bad.js", "bad.js"] Sample.options [] false)) := by
  have hs : Sample.project.WellFormed := by decide +kernel
  obtain ⟨_, htold, _, honce, hprints⟩ := dryRun_foretells_iff Sample.workspace Sample.project
    Sample.options [] ["Foo.js", "bad.js", "bad.js"] hs
  let foo : Target := ⟨.ofString "Foo.js", ["Foo.js"], Utf8.ofString Sample.tupleSource⟩
  let bad : Target := ⟨.ofString "bad.js", ["bad.js"], [0xff]⟩
  have hvisited : targets Sample.project Sample.workspace.cwd (collect Sample.project
      Sample.workspace.cwd [] ["Foo.js", "bad.js", "bad.js"]).found = [foo, bad, bad] := by
    decide +kernel
  have hbad : ∀ index, bad.alone Sample.workspace Sample.options index = ⟨.unreadable, none⟩ :=
    fun _ => verdict_of_not_text (by decide +kernel)
  rw [hvisited] at htold honce
  have hsame := honce (.cons ?_ (.cons ?_ (List.pairwise_singleton _ _)))
  · refine ⟨hs, ?_, hsame, hprints hsame⟩
    obtain ⟨foretold, _, hforetold, _, _, hall, _⟩ := htold (by decide +kernel)
    have hfoo : foo.alone Sample.workspace Sample.options
        (indexFor {} Sample.project Sample.workspace.cwd Sample.options) =
        ⟨.filled 1, some (Utf8.ofString Sample.tupleFilled)⟩ := verdict_project
    rw [hforetold, hall, List.map_cons, List.map_cons, List.map_cons, List.map_nil, Target.outcome,
      Target.outcome, hfoo, hbad]
  · intro t ht hloc
    rcases List.mem_pair.mp ht with rfl | rfl <;> exact absurd hloc (by decide)
  · intro t _ _ n
    rw [hbad]
    simp

/-- The dry and the real run over the file of the project, listed twice. -/
theorem run_rereading_twice :
    (run Sample.rereading Sample.project {} Sample.options true [] ["Foo.js", "Foo.js"]).returned =
      .ok [⟨.ofString "Foo.js", .filled 1⟩, ⟨.ofString "Foo.js", .filled 1⟩] ∧
    (run Sample.rereading Sample.project {} Sample.options false [] ["Foo.js", "Foo.js"]).returned =
      .ok [⟨.ofString "Foo.js", .filled 1⟩, ⟨.ofString "Foo.js", .unchanged⟩] := by
  have hs : Sample.project.WellFormed := by decide +kernel
  have hnone : (collect Sample.project Sample.rereading.cwd [] ["Foo.js", "Foo.js"]).fault =
      none := by
    decide +kernel
  have hvisited : targets Sample.project Sample.rereading.cwd (collect Sample.project
      Sample.rereading.cwd [] ["Foo.js", "Foo.js"]).found =
      [⟨.ofString "Foo.js", ["Foo.js"], Utf8.ofString Sample.tupleSource⟩,
        ⟨.ofString "Foo.js", ["Foo.js"], Utf8.ofString Sample.tupleSource⟩] := by
    decide +kernel
  have hfirst := verdict_rereading
  have hagain := verdict_rereading_again
  rw [run_returned_outcomesOf hs hnone, run_returned_outcomesOf hs hnone, hvisited]
  -- From here on only the two verdicts matter, not what the index is.
  generalize indexFor {} Sample.project Sample.rereading.cwd Sample.options = index at *
  constructor
  · rw [outcomesOf_dryRun]
    simp only [List.map_cons, List.map_nil, Target.outcome, Target.alone, hfirst]
  · -- On the second visit the file holds what the first one wrote.
    simp only [outcomesOf, List.mapIdx_cons, List.mapIdx_nil, Target.outcomeAfter, contentAt,
      contentAfter, List.take_zero, List.take_succ_cons, List.foldl_nil, List.foldl_cons,
      Bool.false_eq_true, if_false, if_true, hfirst, Option.getD_some, hagain]

/-- **A dry run counts a file twice that is listed twice.** A real run fills it in on the first
    visit and leaves it as it is on the second, and so the totals differ as well. -/
theorem dryRun_counts_repeated_file :
    Sample.project.WellFormed ∧
    (run Sample.rereading Sample.project {} Sample.options true [] ["Foo.js", "Foo.js"]).returned =
      .ok [⟨.ofString "Foo.js", .filled 1⟩, ⟨.ofString "Foo.js", .filled 1⟩] ∧
    (run Sample.rereading Sample.project {} Sample.options false [] ["Foo.js", "Foo.js"]).returned =
      .ok [⟨.ofString "Foo.js", .filled 1⟩, ⟨.ofString "Foo.js", .unchanged⟩] ∧
    (Command.fulfil Sample.rereading Sample.project
      (.run ["Foo.js", "Foo.js"] Sample.options [] true)).output.getLast? =
      some "Would rewrite 2 type reference(s) in 2 of 2 file(s)" ∧
    (Command.fulfil Sample.rereading Sample.project
      (.run ["Foo.js", "Foo.js"] Sample.options [] false)).output.getLast? =
      some "Rewrote 1 type reference(s) in 1 of 2 file(s)" := by
  obtain ⟨hdry, hreal⟩ := run_rereading_twice
  refine ⟨by decide +kernel, hdry, hreal, ?_, ?_⟩
  · exact Command.getLast?_output_fulfil_run hdry (by decide +kernel)
  · exact Command.getLast?_output_fulfil_run hreal (by decide +kernel)

end Batch

end ArityFill
