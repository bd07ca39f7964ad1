import ArityFill.Report.Index
import Mathlib.Data.List.Basic
import Mathlib.Data.List.Induction
import Mathlib.Data.List.Nodup

/-! # Errors by key

    An index is built by putting one error after the other at the end of the group of its key. Here
    the groups are described without an accumulator. Let some errors stand in a list, each with its
    key. Then

    - the keys of the groups are the keys of that list, each once, in the order in which they first
      appear,
    - the group of a key is the list of its errors, in the order of the list.

    `foldl_addTo` says that the building comes to these groups.
-/

namespace ArityFill.Report

/-! ## Keys in order of first appearance -/

section
variable {α : Type} [DecidableEq α]

theorem eraseDups_concat (as : List α) (a : α) :
    (as ++ [a]).eraseDups = if a ∈ as then as.eraseDups else as.eraseDups ++ [a] := by
  rw [List.eraseDups_append]
  by_cases h : a ∈ as
  · simp [List.removeAll, h]
  · simp [List.removeAll, h, List.eraseDups_cons]

theorem nodup_eraseDups (as : List α) : as.eraseDups.Nodup := by
  induction as using List.reverseRecOn with
  | nil => simp
  | append_singleton as a ih =>
    rw [eraseDups_concat]
    split
    · exact ih
    · next h =>
      rw [← List.concat_eq_append]
      exact List.Nodup.concat (fun hmem => h (List.mem_eraseDups.mp hmem)) ih

end

/-! ## Groups -/

/-- The errors under a key. -/
def errorsUnder (key : String) (es : List (String × ArityError)) : List ArityError :=
  (es.filter fun e => e.1 = key).map Prod.snd

/-- The groups of some errors, each given with its key. -/
def groupsOf (es : List (String × ArityError)) : List (String × List ArityError) :=
  (es.map Prod.fst).eraseDups.map fun key => (key, errorsUnder key es)

theorem errorsUnder_append (key : String) (es fs : List (String × ArityError)) :
    errorsUnder key (es ++ fs) = errorsUnder key es ++ errorsUnder key fs := by
  simp [errorsUnder]

theorem errorsUnder_eq_nil_iff {key : String} {es : List (String × ArityError)} :
    errorsUnder key es = [] ↔ key ∉ es.map Prod.fst := by
  rw [errorsUnder, List.map_eq_nil_iff, List.filter_eq_nil_iff, List.mem_map]
  constructor
  · rintro h ⟨e, he, rfl⟩
    exact h e he (decide_eq_true rfl)
  · intro h e he hkey
    exact h ⟨e, he, of_decide_eq_true hkey⟩

/-- An error is put at the end of its group, if there is one. -/
theorem addTo_of_mem {keys : List String} (hnodup : keys.Nodup) {key : String} (h : key ∈ keys)
    (e : ArityError) (group : String → List ArityError) :
    addTo key e (keys.map fun k => (k, group k)) =
      keys.map fun k => (k, if k = key then group k ++ [e] else group k) := by
  induction keys with
  | nil => cases h
  | cons k keys ih =>
    rw [List.nodup_cons] at hnodup
    rw [List.map_cons, List.map_cons, addTo]
    by_cases hk : k = key
    · -- The groups behind it have other keys.
      subst hk
      rw [if_pos rfl, if_pos rfl]
      congr 1
      apply List.map_congr_left
      intro k' hk'
      rw [if_neg]
      rintro rfl
      exact hnodup.1 hk'
    · rw [if_neg hk, if_neg hk, ih hnodup.2 ((List.mem_cons.mp h).resolve_left (Ne.symm hk))]

/-- Without a group of its key, an error makes one at the end. -/
theorem addTo_of_notMem {groups : List (String × List ArityError)} {key : String}
    (h : key ∉ groups.map Prod.fst) (e : ArityError) :
    addTo key e groups = groups ++ [(key, [e])] := by
  induction groups with
  | nil => rfl
  | cons g groups ih =>
    rw [List.map_cons, List.mem_cons, not_or] at h
    rw [addTo, if_neg (Ne.symm h.1), ih h.2, List.cons_append]

/-- One step of the building. -/
theorem addTo_groupsOf (es : List (String × ArityError)) (key : String) (e : ArityError) :
    addTo key e (groupsOf es) = groupsOf (es ++ [(key, e)]) := by
  have hunder (k : String) : errorsUnder k (es ++ [(key, e)]) =
      if k = key then errorsUnder k es ++ [e] else errorsUnder k es := by
    rw [errorsUnder_append]
    by_cases hk : k = key
    · simp [errorsUnder, hk]
    · simp [errorsUnder, hk, Ne.symm hk]
  have hkeys : (groupsOf es).map Prod.fst = (es.map Prod.fst).eraseDups := by
    simp [groupsOf, Function.comp_def]
  simp only [groupsOf, List.map_append, List.map_cons, List.map_nil, eraseDups_concat, hunder]
  by_cases h : key ∈ es.map Prod.fst
  · rw [if_pos h]
    exact addTo_of_mem (nodup_eraseDups _) (List.mem_eraseDups.mpr h) e fun k => errorsUnder k es
  · have hnew : key ∉ (groupsOf es).map Prod.fst := by
      rw [hkeys, List.mem_eraseDups]
      exact h
    rw [if_neg h, List.map_append, List.map_singleton, if_pos rfl, errorsUnder_eq_nil_iff.mpr h,
      List.nil_append, ← groupsOf, addTo_of_notMem hnew, groupsOf]
    congr 1
    apply List.map_congr_left
    intro k hk
    rw [if_neg]
    rintro rfl
    exact h (List.mem_eraseDups.mp hk)

/-- The whole building, from the groups of the errors before it. -/
theorem foldl_addTo (es fs : List (String × ArityError)) :
    fs.foldl (fun groups f => addTo f.1 f.2 groups) (groupsOf es) = groupsOf (es ++ fs) := by
  induction fs generalizing es with
  | nil => simp
  | cons f fs ih =>
    rw [List.foldl_cons, addTo_groupsOf, ih, List.append_assoc, List.singleton_append]

theorem lookup_groupsOf (es : List (String × ArityError)) (key : String) :
    (groupsOf es).lookup key =
      if key ∈ es.map Prod.fst then some (errorsUnder key es) else none := by
  by_cases h : key ∈ es.map Prod.fst
  · rw [if_pos h]
    exact List.lookup_graph _ (List.mem_eraseDups.mpr h)
  · rw [if_neg h, List.lookup_eq_none_iff]
    intro g hg
    obtain ⟨k, hk, rfl⟩ := List.mem_map.mp hg
    rw [bne_iff_ne]
    rintro rfl
    exact h (List.mem_eraseDups.mp hk)

/-- Putting an error in adds one to the size. -/
theorem size_addTo (key : String) (e : ArityError) (groups : List (String × List ArityError))
    (m : Matching) (total : Nat) :
    (Index.mk (addTo key e groups) m total).size = (Index.mk groups m total).size + 1 := by
  induction groups with
  | nil => rfl
  | cons g groups ih =>
    obtain ⟨k, es⟩ := g
    simp only [Index.size] at ih ⊢
    rw [addTo]
    split
    · simp only [List.foldr_cons, List.length_append, List.length_singleton]
      omega
    · simp only [List.foldr_cons, ih]
      omega

/-- No error is lost, and none is there twice. -/
theorem size_groupsOf (es : List (String × ArityError)) (m : Matching) (total : Nat) :
    (Index.mk (groupsOf es) m total).size = es.length := by
  induction es using List.reverseRecOn with
  | nil => rfl
  | append_singleton es e ih =>
    rw [← addTo_groupsOf, size_addTo, ih, List.length_append, List.length_singleton]

/-! ## Looking up -/

/-- The errors under a key of an index. -/
def Index.group (index : Index) (key : String) : List ArityError :=
  (index.groups.lookup key).getD []

theorem Index.recordsFor_eq (index : Index) (cwd : Location) (path : String) :
    index.recordsFor cwd path = (Path.key cwd index.matching path).map index.group := by
  unfold Index.recordsFor Index.group
  cases Path.key cwd index.matching path <;> rfl

theorem Index.hasRecords_eq (index : Index) (cwd : Location) (path : String) :
    index.hasRecords cwd path =
      (Path.key cwd index.matching path).map fun key => (index.groups.lookup key).isSome := by
  unfold Index.hasRecords
  cases Path.key cwd index.matching path <;> rfl

theorem group_groupsOf (es : List (String × ArityError)) (m : Matching) (total : Nat)
    (key : String) : (Index.mk (groupsOf es) m total).group key = errorsUnder key es := by
  rw [Index.group, lookup_groupsOf]
  split
  · rfl
  · next h => rw [errorsUnder_eq_nil_iff.mpr h, Option.getD_none]

theorem isSome_lookup_groupsOf (es : List (String × ArityError)) (key : String) :
    ((groupsOf es).lookup key).isSome = !(errorsUnder key es).isEmpty := by
  rw [lookup_groupsOf]
  by_cases h : key ∈ es.map Prod.fst
  · have hne : errorsUnder key es ≠ [] := fun hnil => errorsUnder_eq_nil_iff.mp hnil h
    simp [h, hne]
  · rw [if_neg h, errorsUnder_eq_nil_iff.mpr h]
    rfl

end ArityFill.Report
