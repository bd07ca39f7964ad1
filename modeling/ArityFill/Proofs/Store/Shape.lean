import ArityFill.Store
import Mathlib.Data.List.Induction

/-! # What overwriting keeps

    Overwriting a file changes one entry of a store. Everything that only asks where files and
    folders are is the same before and after: two such stores have one shape. In stores of one shape
    a path leads to one location, and whether a file or a folder is there is the same too.

    A store is well formed if it could be on disk: everything lies in a folder and has a name that
    a component of a path can have. Then what stands below a folder is found by the path of the
    folder and the components that lead on from there.
-/

namespace ArityFill

namespace Entry

/-- Whether an entry is a folder. -/
def isFolder : Entry → Bool
  | file _ => false
  | folder => true

theorem isFolder_eq_true {e : Entry} : e.isFolder = true ↔ e = folder := by
  cases e <;> simp [isFolder]

theorem isFolder_eq_false {e : Entry} : e.isFolder = false ↔ ∃ content, e = file content := by
  cases e <;> simp [isFolder]

end Entry

namespace Store

/-! ## Entries -/

/-- Files come before folders: what is looked up among the files is there. -/
theorem get?_eq_file_iff {s : Store} {loc : Location} {content : Bytes} :
    s.get? loc = some (.file content) ↔ s.files.lookup loc = some content := by
  unfold get?
  cases s.files.lookup loc with
  | some c => simp
  | none => simp only [reduceCtorEq, iff_false]; split <;> simp

theorem isSome_lookup_eq (s : Store) (loc : Location) :
    (s.files.lookup loc).isSome = decide (loc ∈ s.files.map Prod.fst) := by
  rw [Bool.eq_iff_iff, List.lookup_isSome_iff, decide_eq_true_iff, List.mem_map]
  constructor
  · rintro ⟨f, hf, hkey⟩
    exact ⟨f, hf, (beq_iff_eq.mp hkey).symm⟩
  · rintro ⟨f, hf, rfl⟩
    exact ⟨f, hf, beq_self_eq_true _⟩

theorem get?_of_mem_files {s : Store} {loc : Location} (h : loc ∈ s.files.map Prod.fst) :
    ∃ content, s.get? loc = some (.file content) := by
  have hsome : (s.files.lookup loc).isSome := by
    rw [isSome_lookup_eq]
    exact decide_eq_true h
  obtain ⟨content, hcontent⟩ := Option.isSome_iff_exists.mp hsome
  exact ⟨content, get?_eq_file_iff.mpr hcontent⟩

/-- Looking up a key among overwritten files. -/
theorem lookup_overwrite (s : Store) (loc l : Location) (content : Bytes) :
    (s.overwrite loc content).files.lookup l =
      if l = loc then (s.files.lookup l).map fun _ => content else s.files.lookup l := by
  unfold overwrite
  induction s.files with
  | nil => simp
  | cons f fs ih =>
    obtain ⟨k, old⟩ := f
    simp only [List.map_cons]
    by_cases hk : k = loc
    · -- The first file is overwritten.
      by_cases hl : l = k
      · simp [hk, hl]
      · have hne : (l == k) = false := by simpa using hl
        have hloc : l ≠ loc := by rw [← hk]; exact hl
        simp only [hk, ↓reduceIte, List.lookup_cons] at ih ⊢
        rw [hk] at hne
        simp only [hne, ih, hloc, ↓reduceIte]
    · -- The first file is kept.
      simp only [hk, ↓reduceIte, List.lookup_cons]
      by_cases hl : l = k
      · simp [hl, hk]
      · have hne : (l == k) = false := by simpa using hl
        simp only [hne, ih]

theorem get?_overwrite_of_ne {s : Store} {loc l : Location} (content : Bytes) (h : l ≠ loc) :
    (s.overwrite loc content).get? l = s.get? l := by
  unfold get?
  rw [lookup_overwrite, if_neg h]
  rfl

theorem get?_overwrite_self {s : Store} {loc : Location} {old : Bytes} (content : Bytes)
    (h : s.get? loc = some (.file old)) :
    (s.overwrite loc content).get? loc = some (.file content) := by
  rw [get?_eq_file_iff] at h ⊢
  rw [lookup_overwrite, if_pos rfl, h]
  rfl

/-- Files at different locations can be overwritten in any order. -/
theorem overwrite_comm (s : Store) {a b : Location} (h : a ≠ b) (x y : Bytes) :
    (s.overwrite a x).overwrite b y = (s.overwrite b y).overwrite a x := by
  simp only [overwrite, List.map_map, mk.injEq, and_true]
  apply List.map_congr_left
  intro f _
  by_cases ha : f.1 = a
  · simp [ha, h]
  · by_cases hb : f.1 = b
    · simp [hb, Ne.symm h]
    · simp [ha, hb]

/-! ## Shapes -/

/-- Two stores with files and folders at the same locations. -/
structure SameShape (s t : Store) : Prop where
  /-- The files stand at the same locations. -/
  files : t.files.map Prod.fst = s.files.map Prod.fst
  /-- The folders are the same. -/
  folders : t.folders = s.folders

theorem SameShape.refl (s : Store) : s.SameShape s :=
  ⟨rfl, rfl⟩

theorem SameShape.trans {s t u : Store} (h : s.SameShape t) (h' : t.SameShape u) :
    s.SameShape u :=
  ⟨h'.files.trans h.files, h'.folders.trans h.folders⟩

theorem sameShape_overwrite (s : Store) (loc : Location) (content : Bytes) :
    s.SameShape (s.overwrite loc content) := by
  refine ⟨?_, rfl⟩
  simp only [overwrite, List.map_map]
  apply List.map_congr_left
  intro f _
  by_cases h : f.1 = loc <;> simp [h]

section
variable {s t : Store} (h : s.SameShape t)
include h

/-- Stores of one shape have the same sort of entry everywhere. -/
theorem SameShape.isFolder_get? (loc : Location) :
    (t.get? loc).map Entry.isFolder = (s.get? loc).map Entry.isFolder := by
  have hsome : (t.files.lookup loc).isSome = (s.files.lookup loc).isSome := by
    rw [isSome_lookup_eq, isSome_lookup_eq, h.files]
  unfold get?
  rw [h.folders]
  cases hs : s.files.lookup loc <;> cases ht : t.files.lookup loc <;> simp [hs, ht] at hsome ⊢
  rfl

theorem SameShape.get?_folder_iff {loc : Location} :
    t.get? loc = some .folder ↔ s.get? loc = some .folder := by
  have heq := h.isFolder_get? loc
  cases hs : s.get? loc <;> cases ht : t.get? loc <;> rw [hs, ht] at heq <;>
    simp_all [← Entry.isFolder_eq_true]

theorem SameShape.get?_file {loc : Location} {content : Bytes}
    (hfile : s.get? loc = some (.file content)) :
    ∃ content', t.get? loc = some (.file content') := by
  have heq := h.isFolder_get? loc
  rw [hfile, Option.map_some, Option.map_eq_some_iff] at heq
  obtain ⟨e, he, hkind⟩ := heq
  obtain ⟨content', rfl⟩ := Entry.isFolder_eq_false.mp hkind
  exact ⟨content', he⟩

/-- Following components asks for folders only. -/
theorem SameShape.follow_eq (loc : Location) (parts : List String) :
    t.follow loc parts = s.follow loc parts := by
  induction parts generalizing loc with
  | nil => rfl
  | cons part parts ih =>
    have heq := h.isFolder_get? loc
    unfold follow
    cases hs : s.get? loc with
    | none =>
      rw [hs, Option.map_none, Option.map_eq_none_iff] at heq
      rw [heq]
    | some e =>
      rw [hs, Option.map_some, Option.map_eq_some_iff] at heq
      obtain ⟨e', ht, hkind⟩ := heq
      rw [ht]
      cases e <;> cases e' <;> simp_all [Entry.isFolder]

end

/-! ## Paths -/

/-- What it takes to find something. -/
theorem find_eq_ok_iff {s : Store} {cwd : Location} {p : Path} {loc : Location} {e : Entry} :
    s.find cwd p = .ok (loc, e) ↔
      p.parts.any Path.hasNull = false ∧ p.isTooLong = false ∧
      s.follow (if p.anchor = .here then cwd else []) p.parts = .ok loc ∧
      s.get? loc = some e := by
  unfold find
  cases p.parts.any Path.hasNull with
  | true => simp
  | false =>
    cases p.isTooLong with
    | true => simp
    | false =>
      cases hfollow : s.follow (if p.anchor = .here then cwd else []) p.parts with
      | error f => simp
      | ok l =>
        cases hentry : s.get? l with
        | none =>
          simp only [Bool.false_eq_true, ↓reduceIte, hentry, reduceCtorEq, Except.ok.injEq,
            true_and, false_iff, not_and]
          rintro rfl
          simp [hentry]
        | some e' =>
          simp only [Bool.false_eq_true, ↓reduceIte, hentry, Except.ok.injEq, Prod.mk.injEq,
            true_and]
          constructor
          · rintro ⟨rfl, rfl⟩
            exact ⟨rfl, hentry⟩
          · rintro ⟨rfl, h⟩
            exact ⟨rfl, Option.some.inj (hentry.symm.trans h)⟩

/-- A component that is too long is a fault in a folder that is there. -/
theorem find_of_long_part {s : Store} {cwd : Location} {part : String}
    (hcwd : s.get? cwd = some .folder) (hnull : Path.hasNull part = false)
    (hlong : Path.partLimit < part.utf8ByteSize) (hshort : part.utf8ByteSize ≤ Path.textLimit) :
    s.find cwd ⟨.here, [part]⟩ = .error .nameTooLong := by
  have htext : (⟨.here, [part]⟩ : Path).isTooLong = false := by
    simp [Path.isTooLong, Path.text, Anchor.text, hshort]
  simp [find, follow, hnull, htext, hcwd, hlong]

section
variable {s t : Store} (h : s.SameShape t) {cwd : Location} {p : Path} {loc : Location}
include h

/-- In a store of the same shape a path still leads to a file, if to another content. -/
theorem SameShape.find_file {content : Bytes} (hfind : s.find cwd p = .ok (loc, .file content)) :
    ∃ content', t.get? loc = some (.file content') ∧
      t.find cwd p = .ok (loc, .file content') := by
  obtain ⟨hnull, hshort, hfollow, hentry⟩ := find_eq_ok_iff.mp hfind
  obtain ⟨content', hentry'⟩ := h.get?_file hentry
  refine ⟨content', hentry', find_eq_ok_iff.mpr ⟨hnull, hshort, ?_, hentry'⟩⟩
  rw [h.follow_eq]
  exact hfollow

theorem SameShape.find_folder (hfind : s.find cwd p = .ok (loc, .folder)) :
    t.find cwd p = .ok (loc, .folder) := by
  obtain ⟨hnull, hshort, hfollow, hentry⟩ := find_eq_ok_iff.mp hfind
  refine find_eq_ok_iff.mpr ⟨hnull, hshort, ?_, h.get?_folder_iff.mpr hentry⟩
  rw [h.follow_eq]
  exact hfollow

theorem SameShape.find_error {f : Fault} (hfind : s.find cwd p = .error f) :
    t.find cwd p = .error f := by
  cases hfollow : s.follow (if p.anchor = .here then cwd else []) p.parts with
  | error g =>
    rw [← hfind]
    simp only [find, h.follow_eq, hfollow]
  | ok l =>
    have hkind := h.isFolder_get? l
    cases hs : s.get? l with
    | none =>
      rw [hs, Option.map_none, Option.map_eq_none_iff] at hkind
      rw [← hfind]
      simp only [find, h.follow_eq, hfollow, hs, hkind]
    | some e =>
      -- Something is there, so the fault is about the path itself.
      unfold find at hfind ⊢
      by_cases hnull : p.parts.any Path.hasNull = true
      · rw [if_pos hnull] at hfind ⊢
        exact hfind
      · rw [if_neg hnull] at hfind ⊢
        by_cases hlong : p.isTooLong = true
        · rw [if_pos hlong] at hfind ⊢
          exact hfind
        · rw [if_neg hlong] at hfind
          simp only [hfollow, hs, reduceCtorEq] at hfind

end

/-- Following some components is following the first and then the others. -/
theorem follow_append (s : Store) (loc : Location) (as bs : List String) :
    s.follow loc (as ++ bs) = (s.follow loc as).bind fun l => s.follow l bs := by
  induction as generalizing loc with
  | nil => rfl
  | cons a as ih =>
    simp only [List.cons_append, follow]
    split
    · split
      · rfl
      · exact ih _
    · rfl
    · rfl

end Store

/-- Whether a file or a folder can have a name. -/
def Path.isName (s : String) : Bool :=
  s ≠ "" ∧ s ≠ "." ∧ s ≠ ".." ∧ '/' ∉ s.toList ∧ !hasNull s ∧ s.utf8ByteSize ≤ partLimit

namespace Store

/-- Where something stands, the root apart. -/
def locations (s : Store) : List Location :=
  s.files.map Prod.fst ++ s.folders

/-- A store that could be on disk. -/
structure WellFormed (s : Store) : Prop where
  /-- Everything has a name. -/
  names : ∀ loc ∈ s.locations, ∀ part ∈ loc, Path.isName part = true
  /-- Everything lies in a folder. -/
  parents : ∀ loc ∈ s.locations, s.get? loc.dropLast = some .folder

instance (s : Store) : Decidable s.WellFormed :=
  decidable_of_iff
    ((∀ loc ∈ s.locations, ∀ part ∈ loc, Path.isName part = true) ∧
      ∀ loc ∈ s.locations, s.get? loc.dropLast = some .folder)
    ⟨fun ⟨h₁, h₂⟩ => ⟨h₁, h₂⟩, fun ⟨h₁, h₂⟩ => ⟨h₁, h₂⟩⟩

theorem mem_locations_of_get? {s : Store} {loc : Location} {e : Entry}
    (h : s.get? loc = some e) (hne : loc ≠ []) : loc ∈ s.locations := by
  unfold get? at h
  split at h
  · next content hlookup =>
    apply List.mem_append_left
    have hsome := isSome_lookup_eq s loc
    rw [hlookup] at hsome
    exact of_decide_eq_true hsome.symm
  · apply List.mem_append_right
    split at h
    · next hfolder => exact hfolder.resolve_left hne
    · cases h

section
variable {s : Store} (hs : s.WellFormed)
include hs

/-- What has something below it is a folder. -/
theorem WellFormed.folder_above {loc : Location} {below : List String} {e : Entry}
    (h : s.get? (loc ++ below) = some e) (hne : below ≠ []) : s.get? loc = some .folder := by
  induction below using List.reverseRecOn generalizing e with
  | nil => exact absurd rfl hne
  | append_singleton above last ih =>
    rw [← List.append_assoc] at h
    have hparent := hs.parents _ (mem_locations_of_get? h (by simp))
    rw [List.dropLast_concat] at hparent
    by_cases habove : above = []
    · rwa [habove, List.append_nil] at hparent
    · exact ih hparent habove

/-- What stands below a location is reached from there by its components. -/
theorem WellFormed.follow_below {loc : Location} {below : List String} {e : Entry}
    (h : s.get? (loc ++ below) = some e) : s.follow loc below = .ok (loc ++ below) := by
  induction below generalizing loc with
  | nil => simp [follow]
  | cons part below ih =>
    have hfolder := hs.folder_above h (List.cons_ne_nil part below)
    have hname := hs.names _ (mem_locations_of_get? h (by simp)) part (by simp)
    simp only [Path.isName, decide_eq_true_eq] at hname
    obtain ⟨_, _, hup, _, _, hsize⟩ := hname
    have henter : Path.enter loc part = loc ++ [part] := by rw [Path.enter, if_neg hup]
    have hnext : s.get? (loc ++ [part] ++ below) = some e := by simpa using h
    rw [follow, hfolder]
    simp only [Nat.not_lt.mpr hsize, ↓reduceIte, henter, ih hnext]
    simp

/-- What stands below a folder is found by the joined path, if that is short enough. -/
theorem WellFormed.find_join {cwd : Location} {p : Path} {loc : Location} {below : List String}
    {e e' : Entry} (hfind : s.find cwd p = .ok (loc, e')) (h : s.get? (loc ++ below) = some e)
    (hshort : (p.join below).isTooLong = false) :
    s.find cwd (p.join below) = .ok (loc ++ below, e) := by
  obtain ⟨hnull, _, hfollow, _⟩ := find_eq_ok_iff.mp hfind
  refine find_eq_ok_iff.mpr ⟨?_, hshort, ?_, h⟩
  · rw [Path.join, List.any_append, hnull, Bool.false_or, List.any_eq_false]
    intro part hpart
    have hname := hs.names _ (mem_locations_of_get? h (by
      intro hnil
      rw [(List.append_eq_nil_iff.mp hnil).2] at hpart
      cases hpart)) part (List.mem_append_right _ hpart)
    simp only [Path.isName, decide_eq_true_eq] at hname
    simpa using hname.2.2.2.2.1
  · rw [Path.join, follow_append, hfollow]
    exact hs.follow_below h

end

end Store

end ArityFill
