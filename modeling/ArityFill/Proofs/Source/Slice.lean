import ArityFill.Source.Bytes

/-! # Slices of byte strings

    Small facts about the bytes of a span: how long a slice is, how adjacent slices join, and what a
    slice of a concatenation is.
-/

namespace ArityFill

namespace Span

/-- Whether two spans share no byte. -/
def Disjoint (a b : Span) : Prop :=
  a.stop ≤ b.start ∨ b.stop ≤ a.start

instance (a b : Span) : Decidable (Disjoint a b) :=
  inferInstanceAs (Decidable (_ ∨ _))

theorem Disjoint.symm {a b : Span} (h : Disjoint a b) : Disjoint b a :=
  Or.symm h

/-- Spans that hold bytes overlap exactly when they share one. -/
theorem overlaps_eq_false_of_disjoint {a b : Span} (h : Disjoint a b) :
    a.overlaps b = false := by
  unfold Disjoint at h
  simp only [overlaps, decide_eq_false_iff_not]
  omega

end Span

namespace Bytes

theorem length_slice {bs : Bytes} {s : Span} (h : s.stop ≤ bs.length) :
    (bs.slice s).length = s.stop - s.start := by
  simp only [slice, List.length_take, List.length_drop]
  omega

/-- The first bytes of a text up to the end of a slice. -/
theorem take_append_slice (bs : Bytes) {i j : Nat} (h : i ≤ j) :
    bs.take i ++ bs.slice ⟨i, j⟩ = bs.take j := by
  obtain ⟨n, rfl⟩ := Nat.exists_eq_add_of_le h
  simp only [slice, Nat.add_sub_cancel_left]
  rw [List.take_add]

/-- A slice and what follows it. -/
theorem slice_append_drop (bs : Bytes) {i j : Nat} (h : i ≤ j) :
    bs.slice ⟨i, j⟩ ++ bs.drop j = bs.drop i := by
  have hdrop : bs.drop j = (bs.drop i).drop (j - i) := by
    rw [List.drop_drop]
    congr 1
    omega
  rw [hdrop]
  exact List.take_append_drop _ _

/-- Two slices that meet are one slice. -/
theorem slice_append_slice (bs : Bytes) {i j k : Nat} (hij : i ≤ j) (hjk : j ≤ k) :
    bs.slice ⟨i, j⟩ ++ bs.slice ⟨j, k⟩ = bs.slice ⟨i, k⟩ := by
  have hsplit : k - i = (j - i) + (k - j) := by omega
  have hdrop : (bs.drop i).drop (j - i) = bs.drop j := by
    rw [List.drop_drop]
    congr 1
    omega
  simp only [slice]
  rw [hsplit, List.take_add, hdrop]

/-- The slice of a concatenation that is exactly its middle part. -/
theorem slice_append_middle (front middle back : Bytes) {i j : Nat} (hi : front.length = i)
    (hj : front.length + middle.length = j) :
    Bytes.slice (front ++ middle ++ back) ⟨i, j⟩ = middle := by
  subst hi hj
  simp [slice, List.append_assoc]

end Bytes

end ArityFill
