import ArityFill.Proofs.Path.Key

/-! # Base names and last segments

    The last segment of a path is what follows its last separator, and matching by base name is
    meant to compare last segments. Directories are stripped from the first line of a path only, so
    the two agree as long as all separators stand on that line:

    - `basename_whole_iff`: a separator is left in the base name exactly if one stands behind a line
      break,
    - `lastRun_basename_iff`: the base name is the last segment exactly if no separator is left.
-/

namespace ArityFill.Path

/-- Whether all separators of a text stand on its first line: none follows a line break. -/
def SeparatedFirst (cs : List Char) : Prop :=
  ∀ before after, cs = before ++ '\n' :: after → ∀ c ∈ after, isSeparator c = false

/-- What follows the first line decides it. -/
theorem separatedFirst_append_iff {line rest : List Char} (hline : '\n' ∉ line)
    (hrest : ∀ c ∈ rest.head?, c = '\n') :
    SeparatedFirst (line ++ rest) ↔ ∀ c ∈ rest, isSeparator c = false := by
  constructor
  · intro h c hc
    cases rest with
    | nil => cases hc
    | cons d rest =>
      have hd : d = '\n' := hrest d rfl
      subst hd
      -- The break itself is no separator, and the first line ends right before it.
      rcases List.mem_cons.mp hc with hbreak | hlater
      · rw [hbreak]
        decide
      · exact h line rest rfl c hlater
  · intro h before after hsplit c hc
    -- A line break is not on the first line, so what follows it follows the first line too.
    rcases List.append_eq_append_iff.mp hsplit with ⟨more, hbefore, hmore⟩ | ⟨more, hmore, hbreak⟩
    · apply h c
      rw [hmore]
      exact List.mem_append_right _ (List.mem_cons_of_mem _ hc)
    · cases more with
      | nil =>
        apply h c
        rw [List.nil_append] at hbreak
        rw [← hbreak]
        exact List.mem_cons_of_mem _ hc
      | cons d more =>
        have hd : '\n' = d := (List.cons.inj hbreak).1
        exfalso
        apply hline
        rw [hmore, hd]
        exact List.mem_append_right _ List.mem_cons_self

/-- A separator is left in the base name exactly if one stands behind a line break. -/
theorem basename_whole_iff (cs : List Char) :
    (∀ c ∈ basename cs, isSeparator c = false) ↔ SeparatedFirst cs := by
  obtain ⟨line, rest, rfl, hline, hrest⟩ := exists_firstLine cs
  obtain ⟨_, _, _, hrun⟩ := Text.lastRun_afterLast isSeparator line
  rw [basename_append hline hrest, separatedFirst_append_iff hline hrest, List.forall_mem_append]
  exact and_iff_right hrun

instance (cs : List Char) : Decidable (SeparatedFirst cs) :=
  decidable_of_iff ((basename cs).any isSeparator = false)
    (by simp [← basename_whole_iff, List.any_eq_false])

/-- The base name is the last segment exactly if no separator is left in it. -/
theorem lastRun_basename_iff (cs : List Char) :
    Text.LastRun isSeparator cs (basename cs) ↔ ∀ c ∈ basename cs, isSeparator c = false := by
  constructor
  · intro h
    obtain ⟨_, _, _, hwhole⟩ := h
    exact hwhole
  · intro hwhole
    obtain ⟨line, rest, rfl, hline, hrest⟩ := exists_firstLine cs
    obtain ⟨before, hsplit, hbefore, _⟩ := Text.lastRun_afterLast isSeparator line
    rw [basename_append hline hrest] at hwhole ⊢
    refine ⟨before, ?_, hbefore, hwhole⟩
    rw [← List.append_assoc, ← hsplit]

/-- **Matching by base name compares last segments if all separators stand on the first line.**
    Every path has a key: what follows the last separator of its first line, and then the other
    lines as they are. It is the last segment, and holds no separator, exactly if no separator
    stands behind a line break. Two such paths have one key exactly if they have one last segment.
    -/
theorem key_basename_last_segment_iff (cwd : Location) (p : String) :
    ∃ key, Path.key cwd .basename p = .ok key ∧
      (∃ line rest run, p.toList = line ++ rest ∧ '\n' ∉ line ∧ (∀ c ∈ rest.head?, c = '\n') ∧
        Text.LastRun isSeparator line run ∧ key.toList = run ++ rest) ∧
      (Text.LastRun isSeparator p.toList key.toList ↔ SeparatedFirst p.toList) ∧
      ((∀ c ∈ key.toList, isSeparator c = false) ↔ SeparatedFirst p.toList) ∧
      ∀ q segment segment', SeparatedFirst p.toList → SeparatedFirst q.toList →
        Text.LastRun isSeparator p.toList segment → Text.LastRun isSeparator q.toList segment' →
        (Path.key cwd .basename q = .ok key ↔ segment = segment') := by
  have hsegment : ∀ {q : String} {segment : List Char}, SeparatedFirst q.toList →
      Text.LastRun isSeparator q.toList segment → basename q.toList = segment := by
    intro q segment hfirst hlast
    have hbase := (lastRun_basename_iff q.toList).mpr ((basename_whole_iff q.toList).mpr hfirst)
    exact hbase.afterLast_eq.symm.trans hlast.afterLast_eq
  refine ⟨String.ofList (basename p.toList), rfl, ?_, ?_, ?_, ?_⟩
  · obtain ⟨line, rest, hsplit, hline, hrest⟩ := exists_firstLine p.toList
    refine ⟨line, rest, _, hsplit, hline, hrest, Text.lastRun_afterLast isSeparator line, ?_⟩
    rw [String.toList_ofList, hsplit, basename_append hline hrest]
  · rw [String.toList_ofList, lastRun_basename_iff, basename_whole_iff]
  · rw [String.toList_ofList, basename_whole_iff]
  · intro q segment segment' hp hq hlast hlast'
    have hkeys : Path.key cwd .basename q = .ok (String.ofList (basename p.toList)) ↔
        basename q.toList = basename p.toList := by
      rw [key, Except.ok.injEq, String.ofList_inj]
    rw [hkeys, hsegment hp hlast, hsegment hq hlast']
    exact eq_comm

/-- Backslashes and slashes are one, and a line break in the name of a file does no harm. -/
theorem key_basename_last_segment_iff_broken_name :
    SeparatedFirst "src\\a\nb.js".toList ∧ SeparatedFirst "lib/web/a\nb.js".toList ∧
    Path.key [] .basename "lib/web/a\nb.js" = Path.key [] .basename "src\\a\nb.js" := by
  have hp : SeparatedFirst "src\\a\nb.js".toList := by decide
  have hq : SeparatedFirst "lib/web/a\nb.js".toList := by decide
  obtain ⟨key, hkey, _, _, _, hsame⟩ := key_basename_last_segment_iff [] "src\\a\nb.js"
  have hequal := hsame "lib/web/a\nb.js" "a\nb.js".toList "a\nb.js".toList hp hq (by decide)
    (by decide)
  exact ⟨hp, hq, (hequal.mpr rfl).trans hkey.symm⟩

/-- **A line break in the name of a folder keeps the folders in the key.** The key of such a path is
    not its last segment and holds a separator, and the path is not matched by a path with the
    same last segment. -/
theorem key_basename_keeps_broken_folder :
    Path.key [] .basename "a\nb/c.js" = .ok "a\nb/c.js" ∧
    Text.LastRun isSeparator "a\nb/c.js".toList "c.js".toList ∧
    ¬ Text.LastRun isSeparator "a\nb/c.js".toList "a\nb/c.js".toList ∧
    (∃ c ∈ "a\nb/c.js".toList, isSeparator c = true) ∧
    Text.LastRun isSeparator "x/c.js".toList "c.js".toList ∧
    Path.key [] .basename "x/c.js" = .ok "c.js" := by
  exact ⟨rfl, by decide, by decide, ⟨'/', by decide, rfl⟩, by decide, rfl⟩

end ArityFill.Path
