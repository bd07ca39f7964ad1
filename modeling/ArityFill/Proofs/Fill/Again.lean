import ArityFill.Proofs.Fill.Splice
import Mathlib.Algebra.Ring.Int.Defs
import Mathlib.Data.List.Forall2

/-! # Filling in a text again

    The errors of a report are about offsets of the text that the report was made for. Once a text
    has been filled in, the references behind the first new argument list have moved, and the same
    report is read against other offsets. A reference that was filled in is safe, because it has
    arguments now. Any other reference is safe only as long as it does not come to stand exactly
    where some error of the report points.

    `fill_again_eq_unchanged_iff` says that this is the whole truth, and
    `fill_again_fills_other_reference` shows it going wrong: the second of three names moves to
    where the third one was.

    Of the parser it is assumed that it finds the references of the new text where they have moved
    to, and arguments at those that were filled in.
-/

namespace ArityFill

open Report (ArityError Index)

/-! ## Where things move -/

/-- By how much a replacement makes a text longer. -/
def Edit.growth (e : Edit) : Int :=
  e.text.length - (e.span.stop - e.span.start)

/-- Where an offset of a text moves to: by the growth of all replacements that end at or before
    it. -/
def movedTo (edits : List Edit) (x : Nat) : Int :=
  x + ((edits.filter fun e => e.span.stop ≤ x).map Edit.growth).sum

/-- The fillings of the selected references. -/
def Document.fillings (d : Document) (errors : List ArityError) : List Edit :=
  (d.selected errors).map (d.filling errors)

/-- A reference of a document, and the same reference in the document of the new text. -/
structure Counterpart (errors : List ArityError) (d d' : Document) (n n' : Located) : Prop where
  /-- Both stand in a `typeof`, or none. -/
  typeOf : n'.isWithinTypeOf = n.isWithinTypeOf
  /-- They have the same name. -/
  name : d'.nameOf? n'.node = d.nameOf? n.node
  /-- The beginning has moved. -/
  start : (n'.node.span.start : Int) = movedTo (d.fillings errors) n.node.span.start
  /-- The end has moved. -/
  stop : (n'.node.span.stop : Int) = movedTo (d.fillings errors) n.node.span.stop
  /-- It has arguments if it was given some, and else if it had some before. -/
  arguments : d'.hasArguments n'.node = (d.isSelected errors n || d.hasArguments n.node)

/-- The document of the new text has the same references in the same order. -/
def Reparsed (errors : List ArityError) (d d' : Document) : Prop :=
  List.Forall₂ (Counterpart errors d d') d.references d'.references

instance (errors : List ArityError) (d d' : Document) (n n' : Located) :
    Decidable (Counterpart errors d d' n n') :=
  decidable_of_iff
    (n'.isWithinTypeOf = n.isWithinTypeOf ∧ d'.nameOf? n'.node = d.nameOf? n.node ∧
      (n'.node.span.start : Int) = movedTo (d.fillings errors) n.node.span.start ∧
      (n'.node.span.stop : Int) = movedTo (d.fillings errors) n.node.span.stop ∧
      d'.hasArguments n'.node = (d.isSelected errors n || d.hasArguments n.node))
    ⟨fun ⟨h₁, h₂, h₃, h₄, h₅⟩ => ⟨h₁, h₂, h₃, h₄, h₅⟩,
      fun ⟨h₁, h₂, h₃, h₄, h₅⟩ => ⟨h₁, h₂, h₃, h₄, h₅⟩⟩

instance (errors : List ArityError) (d d' : Document) : Decidable (Reparsed errors d d') :=
  decidable_of_iff
    (d.references.length = d'.references.length ∧
      ∀ p ∈ d.references.zip d'.references, Counterpart errors d d' p.1 p.2)
    (by rw [Reparsed, List.forall₂_iff_zip]; simp only [Prod.forall])

/-- Whether some error is about exactly the bytes that a reference moves to. -/
def Document.landsOnError (d : Document) (errors : List ArityError) (n : Located) : Bool :=
  errors.any fun e =>
    e.start = movedTo (d.fillings errors) n.node.span.start ∧
    e.stop = movedTo (d.fillings errors) n.node.span.stop

/-! ## The second time -/

section
variable {errors : List ArityError} {d d' : Document} {n n' : Located}

/-- A reference whose name could be read the first time can be read the second time. -/
theorem Counterpart.nameReadable (h : Counterpart errors d d' n n') (hn : d.NameReadable n) :
    d'.NameReadable n' := by
  intro hwithin hargs
  rw [h.typeOf] at hwithin
  rw [h.arguments, Bool.or_eq_false_iff] at hargs
  obtain ⟨name, hname⟩ := hn hwithin hargs.2
  exact ⟨name, h.name.trans hname⟩

/-- The second time a reference is selected exactly if it was open and not selected the first time,
    and has moved to where an error points. -/
theorem Counterpart.isSelected_iff (h : Counterpart errors d d' n n') :
    d'.isSelected errors n' = true ↔
      d.isOpen n = true ∧ d.isSelected errors n = false ∧ d.landsOnError errors n = true := by
  have hcovers : (errors.any fun e => e.covers n'.node.span) = d.landsOnError errors n := by
    simp only [Document.landsOnError, ArityError.covers, h.start, h.stop]
  have hopen : d'.isOpen n' = (d.isOpen n && !d.isSelected errors n) := by
    simp only [Document.isOpen, h.typeOf, h.name, h.arguments, Bool.not_or]
    cases d.isSelected errors n <;> cases d.hasArguments n.node <;>
      cases n.isWithinTypeOf <;> simp
  rw [Document.isSelected, hcovers, hopen]
  simp only [Bool.and_eq_true, Bool.not_eq_true', and_assoc]

end

/-- In lists that are related item by item, an item on the right has a partner on the left. -/
theorem exists_left_of_forall₂ {α β : Type} {R : α → β → Prop} {as : List α} {bs : List β}
    (h : List.Forall₂ R as bs) {b : β} (hb : b ∈ bs) : ∃ a ∈ as, R a b := by
  induction h with
  | nil => cases hb
  | cons hab _ ih =>
    rcases List.mem_cons.mp hb with rfl | hb
    · exact ⟨_, List.mem_cons_self, hab⟩
    · obtain ⟨a, ha, hr⟩ := ih hb
      exact ⟨a, List.mem_cons_of_mem _ ha, hr⟩

/-- A filled-in document is left alone the second time exactly if no reference that was passed over
    lands on an error. -/
theorem fillDocument_again_iff {file : String} {errors : List ArityError} {d d' : Document}
    {filled : Filled} (hfirst : (fillDocument file errors d).1 = .ok filled)
    (hparse : Reparsed errors d d') :
    (fillDocument file errors d').1 = .ok .unchanged ↔
      ∀ n ∈ d.references, d.isOpen n = true → d.isSelected errors n = false →
        d.landsOnError errors n = false := by
  have hreadable : ∀ n' ∈ d'.references, d'.NameReadable n' := by
    intro n' hn'
    obtain ⟨n, hn, hpart⟩ := exists_left_of_forall₂ hparse hn'
    exact hpart.nameReadable ((fillDocument_ok hfirst).1 n hn)
  rw [fillDocument_eq_unchanged_iff, Document.selected, List.filter_eq_nil_iff]
  constructor
  · rintro ⟨_, hnone⟩ n hn hopen hsel
    obtain ⟨n', hn', hpart⟩ := exists_left_of_forall₂ hparse.flip hn
    by_contra hlands
    exact hnone n' hn' (hpart.isSelected_iff.mpr ⟨hopen, hsel, by simpa using hlands⟩)
  · intro hsafe
    refine ⟨hreadable, ?_⟩
    intro n' hn' hsel
    obtain ⟨n, hn, hpart⟩ := exists_left_of_forall₂ hparse hn'
    obtain ⟨hopen, hold, hlands⟩ := hpart.isSelected_iff.mp hsel
    rw [hsafe n hn hopen hold] at hlands
    cases hlands

/-- Whether there are errors for a file does not depend on its text, so a file that was looked at
    has an answer the second time. -/
theorem isEligible_of_recordsFor {cwd : Location} {path : String} {index : Index}
    {errors : List ArityError} (source : String) (o : Options)
    (h : index.recordsFor cwd path = .ok errors) :
    ∃ b, isEligible cwd path source index o = .ok b := by
  have hrecords : ∃ b, index.hasRecords cwd path = .ok b := by
    unfold Index.recordsFor at h
    unfold Index.hasRecords
    split at h
    · exact ⟨_, rfl⟩
    · cases h
  unfold isEligible
  split
  · exact ⟨false, rfl⟩
  · split
    · exact ⟨false, rfl⟩
    · exact hrecords

/-- **When a second run changes nothing.** Let a text be filled in, and let the parser find its
    references again. Then filling in the new text with the same index and options changes nothing
    exactly if the new text is not looked at any more, or no open reference that was passed over the
    first time has moved to where an error points. -/
theorem fill_again_eq_unchanged_iff (parser : Parser) (dialect : Dialect) (cwd : Location)
    (path source source' : String) (count : Nat) (index : Index) (o : Options)
    (errors : List ArityError) :
    let d := Document.ofSource parser dialect source
    let d' := Document.ofSource parser dialect source'
    (fill (dialect.backend parser) cwd path source index o).1 = .ok ⟨some source', count⟩ →
    index.recordsFor cwd path = .ok errors →
    Reparsed errors d d' →
    ((fill (dialect.backend parser) cwd path source' index o).1 = .ok .unchanged ↔
      isEligible cwd path source' index o = .ok false ∨
      ∀ n ∈ d.references, d.isOpen n = true → d.isSelected errors n = false →
        d.landsOnError errors n = false) := by
  intro d d' hfirst herrors hparse
  have heligible : isEligible cwd path source index o = .ok true := by
    obtain ⟨b, hb⟩ := isEligible_of_recordsFor source o herrors
    cases b with
    | true => exact hb
    | false => simp [fill, hb, Filled.unchanged] at hfirst
  rw [fill_of_eligible heligible herrors] at hfirst
  have hagain := fillDocument_again_iff hfirst hparse
  obtain ⟨b, hb⟩ := isEligible_of_recordsFor source' o herrors
  cases b with
  | true =>
    rw [fill_of_eligible hb herrors, hagain, hb]
    simp only [Except.ok.injEq, Bool.true_eq_false, false_or]
    rfl
  | false => simp [fill, hb]

/-! ## The tuple of three names, once more -/

namespace Sample

/-- A name of three bytes with arguments behind it, `stop` being where it all ends. -/
def applied (start stop : Nat) (args : List Node) : Node :=
  ⟨"generic_type", ⟨start, stop⟩, true, none,
    [typeName start (start + 3) (some .name),
     ⟨"type_arguments", ⟨start + 3, stop⟩, true, some .typeArguments,
      leaf "<" (start + 3) (start + 4) false none :: args ++
        [leaf ">" (stop - 1) stop false none]⟩]⟩

/-- The placeholder. -/
def anyType (start : Nat) : Node :=
  ⟨"predefined_type", ⟨start, start + 3⟩, true, none,
    [leaf "any" start (start + 3) false none]⟩

/-- A name with one placeholder. -/
def appliedOnce (start : Nat) : Node :=
  applied start (start + 8) [anyType (start + 4)]

/-- A name with two placeholders. -/
def appliedTwice (start : Nat) : Node :=
  applied start (start + 13)
    [anyType (start + 4), leaf "," (start + 7) (start + 8) false none, anyType (start + 9)]

/-- A file with three names. -/
def tupleSource : String := "type T = [Foo, Bar, Baz]; // @flow"

/-- The parser that knows that file and one more. -/
def tupleParser (other : Node) : Parser := fun _ text =>
  if text = Utf8.ofString tupleSource then tupleTree else other

end Sample

/-- With two arguments for the first name the second one moves behind all errors, and running again
    changes nothing. -/
theorem fill_again_eq_unchanged_tuple :
    let errors := [Sample.errorFrom 10 2, Sample.errorFrom 20 1]
    let parser := Sample.tupleParser <| Sample.tupleAlias (Sample.appliedTwice 10)
      (Sample.typeName 25 28 none) (Sample.appliedOnce 30)
    let source' := "type T = [Foo<any, any>, Bar, Baz<any>]; // @flow"
    (fill (Dialect.backend ⟨.tsx, "any"⟩ parser) [] "src/Foo.js" Sample.tupleSource
      (Sample.indexOf errors) {}).1 = .ok ⟨some source', 2⟩ ∧
    (fill (Dialect.backend ⟨.tsx, "any"⟩ parser) [] "src/Foo.js" source'
      (Sample.indexOf errors) {}).1 = .ok .unchanged := by
  intro errors parser source'
  have hfirst : (fill (Dialect.backend ⟨.tsx, "any"⟩ parser) [] "src/Foo.js" Sample.tupleSource
      (Sample.indexOf errors) {}).1 = .ok ⟨some source', 2⟩ :=
    fill_eq_some errors rfl (by decide +kernel) (by decide +kernel) (by decide +kernel)
      (by decide +kernel) (by decide) (by decide +kernel) (by decide +kernel) (by decide +kernel)
  refine ⟨hfirst, ?_⟩
  rw [fill_again_eq_unchanged_iff parser ⟨.tsx, "any"⟩ [] "src/Foo.js" Sample.tupleSource source' 2
    (Sample.indexOf errors) {} errors hfirst (by decide +kernel) (by decide +kernel)]
  right
  decide +kernel

/-- **A second run can fill in another reference.** With one argument for the first name the second
    one moves to where the third one was, and is given the arguments of that one. -/
theorem fill_again_fills_other_reference :
    let errors := [Sample.errorFrom 10 1, Sample.errorFrom 20 1]
    let parser := Sample.tupleParser <| Sample.tupleAlias (Sample.appliedOnce 10)
      (Sample.typeName 20 23 none) (Sample.appliedOnce 25)
    let source' := "type T = [Foo<any>, Bar, Baz<any>]; // @flow"
    (∀ e ∈ errors, 1 ≤ e.arity) ∧
    (fill (Dialect.backend ⟨.tsx, "any"⟩ parser) [] "src/Foo.js" Sample.tupleSource
      (Sample.indexOf errors) {}).1 = .ok ⟨some source', 2⟩ ∧
    Reparsed errors (.ofSource parser ⟨.tsx, "any"⟩ Sample.tupleSource)
      (.ofSource parser ⟨.tsx, "any"⟩ source') ∧
    (fill (Dialect.backend ⟨.tsx, "any"⟩ parser) [] "src/Foo.js" source'
      (Sample.indexOf errors) {}).1 =
      .ok ⟨some "type T = [Foo<any>, Bar<any>, Baz<any>]; // @flow", 1⟩ := by
  intro errors parser source'
  refine ⟨by decide, ?_, by decide +kernel, ?_⟩
  · exact fill_eq_some errors rfl (by decide +kernel) (by decide +kernel) (by decide +kernel)
      (by decide +kernel) (by decide) (by decide +kernel) (by decide +kernel) (by decide +kernel)
  · exact fill_eq_some errors rfl (by decide +kernel) (by decide +kernel) (by decide +kernel)
      (by decide +kernel) (by decide) (by decide +kernel) (by decide +kernel) (by decide +kernel)

end ArityFill
