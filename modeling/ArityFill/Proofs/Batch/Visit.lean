import ArityFill.Batch.Run
import ArityFill.Proofs.Batch.Collect
import ArityFill.Proofs.Fill.File
import ArityFill.Proofs.Text.Utf8

/-! # What one visit does

    A visit to a file comes to a verdict about its bytes: what is told about the file, and its new
    bytes if it is given any. The verdict depends on the bytes and on the index of the run, and the
    index stays what it was at the start: a report that is loaded is kept by the cache, and as long
    as none can be loaded nothing is written.
-/

namespace ArityFill

open Report (Index)

/-- A store in which a file is given new content, if there is any. -/
def Store.update (s : Store) (loc : Location) : Option Bytes → Store
  | none => s
  | some content => s.overwrite loc content

namespace Store

theorem sameShape_update (s : Store) (loc : Location) (new : Option Bytes) :
    s.SameShape (s.update loc new) := by
  cases new with
  | none => exact .refl s
  | some content => exact sameShape_overwrite s loc content

theorem get?_update_of_ne {s : Store} {loc l : Location} (new : Option Bytes) (h : l ≠ loc) :
    (s.update loc new).get? l = s.get? l := by
  cases new with
  | none => rfl
  | some content => exact get?_overwrite_of_ne content h

theorem get?_update_self {s : Store} {loc : Location} {old : Bytes} (new : Option Bytes)
    (h : s.get? loc = some (.file old)) :
    (s.update loc new).get? loc = some (.file (new.getD old)) := by
  cases new with
  | none => exact h
  | some content => exact get?_overwrite_self content h

theorem update_comm (s : Store) {a b : Location} (h : a ≠ b) (x y : Option Bytes) :
    (s.update a x).update b y = (s.update b y).update a x := by
  cases x with
  | none => rfl
  | some x =>
    cases y with
    | none => rfl
    | some y => exact overwrite_comm s h x y

end Store

namespace Batch

/-! ## Verdicts -/

/-- What becomes of a file. -/
structure Verdict where
  /-- What is told about it. -/
  status : Status
  /-- Its new content, if it is given any. -/
  new : Option Bytes
  deriving DecidableEq

/-- The verdict about a text that was filled in. -/
def Verdict.ofFilled (filled : Filled) : Verdict :=
  match filled.source with
  | none => ⟨.unchanged, none⟩
  | some text => ⟨.filled filled.count, some (Utf8.ofString text)⟩

/-- The verdict about a file by its content. -/
def verdict (w : Workspace) (o : Options) (index : Except Fault Index) (p : Path)
    (content : Bytes) : Verdict :=
  match Utf8.toString? content with
  | none => ⟨.unreadable, none⟩
  | some source => .ofFilled (fillUnder w o p.text source index)

section
variable {w : Workspace} {o : Options} {index : Except Fault Index} {p : Path} {content : Bytes}

theorem Verdict.ofFilled_status_ne (filled : Filled) :
    (Verdict.ofFilled filled).status ≠ .unreadable := by
  unfold Verdict.ofFilled
  split <;> simp

/-- Only bytes that are no text are unreadable. -/
theorem verdict_unreadable_iff :
    (verdict w o index p content).status = .unreadable ↔ ¬ Utf8.IsText content := by
  rw [Utf8.isText_iff_toString?]
  unfold verdict
  cases Utf8.toString? content with
  | none => simp
  | some source => simp [Verdict.ofFilled_status_ne]

/-- A file is given new content only if it is a text that is admitted. -/
theorem verdict_new {bytes : Bytes} (h : (verdict w o index p content).new = some bytes) :
    ∃ n source i, (verdict w o index p content).status = .filled n ∧ 1 ≤ n ∧
      content = Utf8.ofString source ∧ index = .ok i ∧ Admitted w o i p.text source := by
  unfold verdict at h ⊢
  cases hsource : Utf8.toString? content with
  | none =>
    rw [hsource] at h
    cases h
  | some source =>
    rw [hsource] at h
    simp only [Verdict.ofFilled] at h ⊢
    cases index with
    | error f => cases h
    | ok i =>
      cases hfilled : (fillUnder w o p.text source (.ok i)).source with
      | none =>
        rw [hfilled] at h
        cases h
      | some text =>
        obtain ⟨hadmitted, hcount⟩ := fillWithIndex_changed hfilled
        exact ⟨_, source, i, rfl, hcount, Utf8.toString?_eq_some_iff.mp hsource, rfl, hadmitted⟩

end

/-- Alone, a file that is a text comes to what filling it in comes to. -/
theorem verdict_of_text (w : Workspace) (store : Store) (cache : Report.Cache) (o : Options)
    (p : Path) (source : String) :
    verdict w o (indexFor cache store w.cwd o) p (Utf8.ofString source) =
      .ofFilled (fillFile w store cache p.text source o none).filled := by
  rw [verdict, Utf8.toString?_ofString, fillFile_filled]

/-- Under an index that is known, what filling it in by the index comes to. -/
theorem verdict_of_fill {w : Workspace} {o : Options} {known : Except Fault Index} {index : Index}
    {p : Path} {path source : String} {filled : Filled} (hname : p.text = path)
    (hindex : known = .ok index)
    (hfilled : (fillWithIndex w path source o none index).1 = filled) :
    verdict w o known p (Utf8.ofString source) = .ofFilled filled := by
  rw [verdict, Utf8.toString?_ofString, hindex, hname, ← hfilled]
  rfl

theorem verdict_of_not_text {w : Workspace} {o : Options} {index : Except Fault Index} {p : Path}
    {content : Bytes} (h : ¬ Utf8.IsText content) :
    verdict w o index p content = ⟨.unreadable, none⟩ := by
  rw [Utf8.isText_iff_toString?] at h
  cases hsource : Utf8.toString? content with
  | none => rw [verdict, hsource]
  | some source => exact absurd ⟨source, hsource⟩ h

/-! ## Visits -/

/-- The store after a visit. -/
def settle (dryRun : Bool) (store : Store) (loc : Location) (v : Verdict) : Store :=
  if dryRun then store else store.update loc v.new

theorem sameShape_settle (dryRun : Bool) (store : Store) (loc : Location) (v : Verdict) :
    store.SameShape (settle dryRun store loc v) := by
  cases dryRun with
  | true => exact .refl store
  | false => exact store.sameShape_update loc v.new

theorem get?_settle_of_ne {dryRun : Bool} {store : Store} {loc l : Location} (v : Verdict)
    (h : l ≠ loc) : (settle dryRun store loc v).get? l = store.get? l := by
  cases dryRun with
  | true => rfl
  | false => exact Store.get?_update_of_ne v.new h

/-- A visit changes the file that it is about, and only by new content. -/
theorem settle_get?_ne {dryRun : Bool} {store : Store} {loc l : Location} {v : Verdict}
    (h : (settle dryRun store loc v).get? l ≠ store.get? l) :
    l = loc ∧ ∃ bytes, v.new = some bytes := by
  refine ⟨?_, ?_⟩
  · by_contra hne
    exact h (get?_settle_of_ne v hne)
  · apply Option.ne_none_iff_exists'.mp
    intro hnone
    apply h
    rw [settle, hnone]
    cases dryRun <;> rfl

theorem readText_of_find {store : Store} {cwd : Location} {p : Path} {loc : Location}
    {content : Bytes} (hfind : store.find cwd p = .ok (loc, .file content)) :
    store.readText cwd p =
      match Utf8.toString? content with
      | some text => .ok text
      | none => .error .notText := by
  cases hsource : Utf8.toString? content <;>
    simp only [Store.readText, Store.read, hfind, hsource]

/-- After a file the index is the same as before, in the same store; if the file was given a new
    text, then in every store. -/
theorem indexFor_after {w : Workspace} {o : Options} {store : Store} {cache : Report.Cache}
    {path source : String} {store' : Store}
    (h : store' = store ∨ (fillFile w store cache path source o none).filled.source.isSome) :
    indexFor (fillFile w store cache path source o none).cache store' w.cwd o =
      indexFor cache store w.cwd o := by
  cases hindex : indexFor cache store w.cwd o with
  | ok index => exact indexFor_fillFile hindex store'
  | error f =>
    -- Without an index nothing is filled in, so the store is the same.
    rw [fillFile_filled, hindex] at h
    have hstore := h.resolve_right (by simp [fillUnder, Filled.unchanged])
    rw [fillFile_cache_of_error hindex, hstore]
    exact hindex

/-- Visiting a file that is there adds one outcome, the verdict about its content; the index for
    the next file is the same as before. -/
theorem visitFile_spec {w : Workspace} {o : Options} {dryRun : Bool} {s : State} {p : Path}
    {loc : Location} {content : Bytes} (hfind : s.store.find w.cwd p = .ok (loc, .file content)) :
    let s' := visitFile w o dryRun s p
    let v := verdict w o (indexFor s.cache s.store w.cwd o) p content
    s'.outcomes = s.outcomes ++ [⟨p, v.status⟩] ∧
    s'.store = settle dryRun s.store loc v ∧
    indexFor s'.cache s'.store w.cwd o = indexFor s.cache s.store w.cwd o := by
  intro s' v
  have hread := readText_of_find hfind
  simp only [s', v, visitFile, verdict]
  cases hsource : Utf8.toString? content with
  | none =>
    rw [hsource] at hread
    simp [hread, settle, Store.update]
  | some source =>
    rw [hsource] at hread
    simp only [hread, ← fillFile_filled]
    cases hnew : (fillFile w s.store s.cache p.text source o none).filled.source with
    | none =>
      -- Nothing is written, though the cache may have loaded the report.
      simp only [Verdict.ofFilled, hnew, settle, Store.update, ite_self, true_and]
      exact indexFor_after (.inl rfl)
    | some text =>
      -- Something was filled in, so the cache had the report before the file is written.
      have hwrite : writeBack s.store w.cwd p text =
          s.store.overwrite loc (Utf8.ofString text) := by
        simp only [writeBack, hfind]
      simp only [Verdict.ofFilled, hnew, settle, Store.update, hwrite, true_and]
      exact indexFor_after (.inr (by rw [hnew]; rfl))

section
variable {w : Workspace} {o : Options} {dryRun : Bool} {s : State} {p : Path} {found : List Found}

theorem visitAll_cons (f : Found) :
    visitAll w o dryRun s (f :: found) = visitAll w o dryRun (visit w o dryRun s f) found := rfl

theorem visitAll_nil : visitAll w o dryRun s [] = s := rfl

theorem visit_file : visit w o dryRun s (.file p) = visitFile w o dryRun s p := rfl

theorem visit_nothing_outcomes : (visit w o dryRun s (.nothing p)).outcomes = s.outcomes := rfl

theorem visit_nothing_store : (visit w o dryRun s (.nothing p)).store = s.store := rfl

theorem visitAll_append (found' : List Found) :
    visitAll w o dryRun s (found ++ found') =
      visitAll w o dryRun (visitAll w o dryRun s found) found' :=
  List.foldl_append

end

/-- The same with an index and a verdict that are known. -/
theorem visitFile_of_verdict {w : Workspace} {o : Options} {dryRun : Bool} {s : State} {p : Path}
    {loc : Location} {content : Bytes} {index : Except Fault Index} {v : Verdict}
    (hindex : indexFor s.cache s.store w.cwd o = index)
    (hfind : s.store.find w.cwd p = .ok (loc, .file content))
    (hv : verdict w o index p content = v) :
    (visitFile w o dryRun s p).outcomes = s.outcomes ++ [⟨p, v.status⟩] ∧
    (visitFile w o dryRun s p).store = settle dryRun s.store loc v ∧
    indexFor (visitFile w o dryRun s p).cache (visitFile w o dryRun s p).store w.cwd o = index := by
  have hspec := @visitFile_spec w o dryRun s p loc content hfind
  rw [hindex, hv] at hspec
  exact hspec

end Batch

end ArityFill
