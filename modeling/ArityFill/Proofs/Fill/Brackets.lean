import ArityFill.Proofs.Fill.Again
import ArityFill.Proofs.Fill.Neighbours
import Mathlib.Algebra.BigOperators.Group.List.Basic

/-! # The bracket behind a name that was filled in

    Some grammars do not attach arguments to a bare parameter or to the name behind a spread. After
    such a name was filled in, the next run finds it as a bare name again, and only the text can
    tell that it has arguments now. So it matters that the opening bracket stands right behind it.

    Where it stands is found by cutting the new text at the start of the name. Before the cut is the
    patched front of the source (`applyEdits_around`), and its length is known from the growth of
    the replacements in it (`length_patchFrom`).

    - `filledBytes_around` says what stands around a selected name in the new text,
    - `fill_brackets_names` says that no parser can make a further run fill the name in again.
-/

namespace ArityFill

open Report (ArityError Index)

/-! ## The text before a replacement -/

/-- Replacements in order make a text longer by their growth. -/
theorem length_patchFrom {bs : Bytes} {pos : Nat} {es : List Edit} (h : InOrder bs.length pos es) :
    ((bs.patchFrom pos es).length : Int) = bs.length - pos + (es.map Edit.growth).sum := by
  induction h with
  | @nil pos hpos =>
    simp only [Bytes.patchFrom, List.length_drop, List.map_nil, List.sum_nil]
    omega
  | @cons pos e es hpos hspan hrest ih =>
    have hstop := hrest.pos_le
    have hgap : (bs.slice ⟨pos, e.span.start⟩).length = e.span.start - pos :=
      Bytes.length_slice (Nat.le_trans hspan hstop)
    simp only [Bytes.patchFrom, List.length_append, hgap, List.map_cons, List.sum_cons, Edit.growth]
    omega

/-- Replacements that begin at or behind an offset keep the bytes before it. -/
theorem take_applyEdits {bs : Bytes} {x : Nat} (hx : x ≤ bs.length) {es : List Edit}
    (hes : ∀ e ∈ es, x ≤ e.span.start) : (applyEdits bs es).take x = bs.take x := by
  induction es generalizing bs with
  | nil => rfl
  | cons e es ih =>
    have hstart := hes e List.mem_cons_self
    have hrest : ∀ e' ∈ es, x ≤ e'.span.start := fun e' he' => hes e' (List.mem_cons_of_mem _ he')
    have hkept : x ≤ (bs.take e.span.start).length := by
      rw [List.length_take]
      omega
    -- The first of them leaves at least as many bytes in place.
    have hlong : x ≤ (bs.splice e.span e.text).length := by
      rw [Bytes.splice, List.append_assoc, List.length_append]
      omega
    have hstep : (bs.splice e.span e.text).take x = bs.take x := by
      rw [Bytes.splice, List.append_assoc, List.take_append_of_le_length hkept, List.take_take,
        Nat.min_eq_left hstart]
    show (applyEdits (bs.splice e.span e.text) es).take x = bs.take x
    rw [ih hlong hrest, hstep]

theorem InOrder.mono {size size' pos : Nat} {es : List Edit} (h : InOrder size pos es)
    (hsize : size ≤ size') : InOrder size' pos es := by
  induction h with
  | nil hpos => exact .nil (Nat.le_trans hpos hsize)
  | cons hpos hspan _ ih => exact .cons hpos hspan ih

/-- **What stands around a replacement.** Let a replacement end within the text, and let the others
    stand before it or behind it. Then the new text begins with the front of the text, patched by
    those before it, and goes on with what it puts in. -/
theorem applyEdits_around {bs : Bytes} {before after : List Edit} {e : Edit}
    (hbefore : InOrder e.span.start 0 before) (hspan : e.span.start ≤ e.span.stop)
    (hstop : e.span.stop ≤ bs.length) (hafter : ∀ e' ∈ after, e.span.stop ≤ e'.span.start) :
    ∃ rest, applyEdits bs (before ++ e :: after).reverse =
      Bytes.patch (bs.take e.span.start) before ++ e.text ++ rest := by
  have hstart : e.span.start ≤ bs.length := Nat.le_trans hspan hstop
  -- Those behind it are made first and do not reach its bytes.
  let moved := applyEdits bs after.reverse
  have htake : moved.take e.span.start = bs.take e.span.start := by
    apply take_applyEdits hstart
    intro e' he'
    exact Nat.le_trans hspan (hafter e' (List.mem_reverse.mp he'))
  let rest := moved.drop (max e.span.start e.span.stop)
  let back := e.text ++ rest
  have hsplice : moved.splice e.span e.text = bs.take e.span.start ++ back := by
    rw [Bytes.splice, htake, List.append_assoc]
  -- Those before it are made last, and only in the front.
  have hlen : (bs.take e.span.start).length = e.span.start := by
    rw [List.length_take, Nat.min_eq_left hstart]
  have hlong : e.span.start ≤ (bs.take e.span.start ++ back).length := by
    rw [List.length_append, hlen]
    exact Nat.le_add_right _ _
  have hfront : applyEdits (bs.take e.span.start ++ back) before.reverse =
      Bytes.patch (bs.take e.span.start) before ++ back := by
    have hsplit := Bytes.patchFrom_append (bs.take e.span.start ++ back) hbefore (.nil hlong)
    rw [List.append_nil, List.take_left' hlen] at hsplit
    rw [applyEdits_reverse (hbefore.mono hlong), List.take_zero, List.nil_append, hsplit,
      Bytes.patchFrom, List.drop_left' hlen]
    rfl
  refine ⟨rest, ?_⟩
  calc applyEdits bs (before ++ e :: after).reverse
      = applyEdits (moved.splice e.span e.text) before.reverse := by
        simp [moved, applyEdits]
    _ = Bytes.patch (bs.take e.span.start) before ++ back := by rw [hsplice, hfront]
    _ = Bytes.patch (bs.take e.span.start) before ++ e.text ++ rest := by
        rw [List.append_assoc]

/-! ## The text around a selected name -/

namespace Document

section
variable {d : Document} {errors : List ArityError}
  (hfull : ∀ n ∈ d.selected errors, n.node.span.start < n.node.span.stop)
  (hapart : (d.selected errors).Pairwise fun a b => a.node.span.Disjoint b.node.span)
include hfull hapart

/-- The fillings are made from the last reference to the first. -/
theorem filledBytes_eq_reverse :
    d.filledBytes errors =
      applyEdits d.source ((byStart (d.selected errors)).map (d.filling errors)).reverse := by
  have hperm : ((byStart (d.selected errors)).map (d.filling errors)).Perm
      ((d.selected errors).map (d.filling errors)) :=
    (List.mergeSort_perm _ _).map _
  have hstarts : ((byStart (d.selected errors)).map (d.filling errors)).Pairwise
      fun a b => a.span.start < b.span.start := by
    rw [List.pairwise_map]
    refine (byStart_pairwise hfull hapart).imp_of_mem ?_
    intro a b ha _ hab
    have hbytes := hfull a (mem_byStart.mp ha)
    show a.node.span.start < b.node.span.start
    omega
  rw [filledBytes, fromTheEnd_eq_reverse hperm hstarts]

variable {n : Located} {left right : List Located}
  (hsplit : byStart (d.selected errors) = left ++ n :: right)
include hsplit

/-- From left to right, a selected reference stands behind the ends of those before it, and before
    the beginnings of those behind it. -/
theorem byStart_around :
    InOrder n.node.span.start 0 (left.map (d.filling errors)) ∧
    (∀ m ∈ left, m.node.span.stop ≤ n.node.span.start) ∧
    (∀ m ∈ n :: right, n.node.span.start < m.node.span.stop) ∧
    (∀ m ∈ right, n.node.span.stop ≤ m.node.span.start) := by
  have hord := byStart_pairwise hfull hapart
  have hbytes : ∀ m ∈ byStart (d.selected errors), m.node.span.start < m.node.span.stop := by
    intro m hm
    exact hfull m (mem_byStart.mp hm)
  rw [hsplit] at hord hbytes
  obtain ⟨hleft, hright, hcross⟩ := List.pairwise_append.mp hord
  rw [List.pairwise_cons] at hright
  have hstops : ∀ m ∈ left, m.node.span.stop ≤ n.node.span.start := by
    intro m hm
    exact hcross m hm n List.mem_cons_self
  have hself := hbytes n (List.mem_append_right _ List.mem_cons_self)
  refine ⟨?_, hstops, ?_, hright.1⟩
  · apply inOrder_of_pairwise (Nat.zero_le _) (fun _ _ => Nat.zero_le _)
    · intro e he
      obtain ⟨m, hm, rfl⟩ := List.mem_map.mp he
      exact ⟨Nat.le_of_lt (hbytes m (List.mem_append_left _ hm)), hstops m hm⟩
    · rw [List.pairwise_map]
      exact hleft
  · intro m hm
    have hmem := hbytes m (List.mem_append_right _ hm)
    rcases List.mem_cons.mp hm with rfl | hbehind
    · exact hself
    · have := hright.1 m hbehind
      omega

/-- The beginning of a selected reference moves by the growth of those to its left. -/
theorem movedTo_start :
    movedTo (d.fillings errors) n.node.span.start =
      n.node.span.start + ((left.map (d.filling errors)).map Edit.growth).sum := by
  obtain ⟨-, hstops, hbehind, -⟩ := byStart_around hfull hapart hsplit
  have hperm : ((byStart (d.selected errors)).map (d.filling errors)).Perm (d.fillings errors) :=
    (List.mergeSort_perm _ _).map _
  have hall : ((left.map (d.filling errors)).filter fun e => e.span.stop ≤ n.node.span.start) =
      left.map (d.filling errors) := by
    rw [List.filter_eq_self]
    intro e he
    obtain ⟨m, hm, rfl⟩ := List.mem_map.mp he
    exact decide_eq_true (hstops m hm)
  have hnone : (((n :: right).map (d.filling errors)).filter
      fun e => e.span.stop ≤ n.node.span.start) = [] := by
    rw [List.filter_eq_nil_iff]
    intro e he
    obtain ⟨m, hm, rfl⟩ := List.mem_map.mp he
    rw [decide_eq_true_eq]
    exact Nat.not_le.mpr (hbehind m hm)
  rw [movedTo, ← ((hperm.filter _).map _).sum_eq, hsplit, List.map_append, List.filter_append,
    hall, hnone, List.append_nil]

/-- **What stands around a selected name.** In the new text it begins where its beginning has moved
    to, and its arguments stand right behind it. -/
theorem filledBytes_around (hplain : n.node.kind ≠ "generic_type")
    (hstop : n.node.span.stop ≤ d.source.length) :
    ∃ front rest, d.filledBytes errors =
        front ++ d.source.slice n.node.span ++ d.argumentBytes errors n ++ rest ∧
      (front.length : Int) = movedTo (d.fillings errors) n.node.span.start := by
  obtain ⟨hbefore, -, hbehind, hafter⟩ := byStart_around hfull hapart hsplit
  have hn : n ∈ d.selected errors := by
    apply mem_byStart.mp
    rw [hsplit]
    exact List.mem_append_right _ List.mem_cons_self
  have hle : n.node.span.start ≤ n.node.span.stop := Nat.le_of_lt (hbehind n List.mem_cons_self)
  have hlen : (d.source.take n.node.span.start).length = n.node.span.start := by
    rw [List.length_take]
    omega
  have hfrom : ∀ e ∈ right.map (d.filling errors), n.node.span.stop ≤ e.span.start := by
    intro e he
    obtain ⟨m, hm, rfl⟩ := List.mem_map.mp he
    exact hafter m hm
  obtain ⟨rest, haround⟩ := @applyEdits_around d.source (left.map (d.filling errors))
    (right.map (d.filling errors)) (d.filling errors n) hbefore hle hstop hfrom
  refine ⟨Bytes.patch (d.source.take n.node.span.start) (left.map (d.filling errors)), rest, ?_, ?_⟩
  · rw [filledBytes_eq_reverse hfull hapart, hsplit, List.map_append, List.map_cons, haround,
      filling_eq_behind hn hplain, Edit.behind, ← List.append_assoc]
  · have hlength := @length_patchFrom (d.source.take n.node.span.start) 0
      (left.map (d.filling errors)) (by rw [hlen]; exact hbefore)
    rw [hlen] at hlength
    rw [movedTo_start hfull hapart hsplit, Bytes.patch, hlength]
    omega

end

/-- An argument list begins with its opening bracket. -/
theorem argumentBytes_eq_cons (d : Document) (errors : List ArityError) (n : Located) :
    ∃ rest, d.argumentBytes errors n = byte '<' :: rest := by
  refine ⟨Utf8.ofString (", ".intercalate
    (List.replicate (arityAt errors n.node.span) d.placeholder) ++ ">"), ?_⟩
  rw [argumentBytes, argumentList, String.append_assoc, Utf8.ofString_append]
  rfl

/-- A bare name has arguments if a bracket stands at its end. -/
theorem hasArguments_of_bracket {d : Document} {n : Node}
    (hkind : n.kind = "identifier" ∨ n.kind = "property_identifier")
    (hbracket : d.source[n.span.stop]? = some (byte '<')) : d.hasArguments n = true := by
  have hgeneric : n.kind ≠ "generic_type" := by
    rcases hkind with h | h <;> simp [h]
  have hnext : d.source.nextSolid? n.span.stop = some (byte '<') := by
    obtain ⟨hlt, hbyte⟩ := List.getElem?_eq_some_iff.mp hbracket
    rw [Bytes.nextSolid?, List.drop_eq_getElem_cons hlt, hbyte,
      List.dropWhile_cons_of_neg (by decide)]
    rfl
  rw [hasArguments, if_neg hgeneric, if_pos hkind, hnext]
  exact decide_eq_true rfl

end Document

/-! ## A further run -/

section
variable {file : String} {errors : List ArityError}

/-- A reference that has arguments is passed over. -/
theorem fillReference_of_hasArguments {p : Progress Document} {n : Located}
    (h : p.document.hasArguments n.node = true) : fillReference file errors p n = .ok p := by
  rw [fillReference_document]
  by_cases hwithin : n.isWithinTypeOf = true
  · rw [if_pos hwithin]
  · rw [if_neg hwithin, if_pos h]

/-- Whether a reference has arguments does not depend on the replacements so far. -/
theorem hasArguments_of_fillReference {p p' : Progress Document} {m : Located}
    (h : fillReference file errors p m = .ok p') (n : Node) :
    p'.document.hasArguments n = p.document.hasArguments n := by
  rcases (fillReference_ok h).2 with ⟨-, rfl⟩ | ⟨-, -, hdocument⟩
  · rfl
  · rw [hdocument]
    rfl

/-- A walk goes through its references as if those with arguments were not among them. -/
theorem fillReferences_skip {p : Progress Document} {n : Located}
    (h : p.document.hasArguments n.node = true) (before after : List Located) :
    fillReferences file errors p (before ++ n :: after) =
      fillReferences file errors p (before ++ after) := by
  induction before generalizing p with
  | nil =>
    rw [List.nil_append, List.nil_append, fillReferences, fillReference_of_hasArguments h]
  | cons m before ih =>
    rw [List.cons_append, List.cons_append, fillReferences, fillReferences]
    cases hstep : fillReference file errors p m with
    | error f => rfl
    | ok p' =>
      apply ih
      rw [hasArguments_of_fillReference hstep]
      exact h

end

/-- **No name is filled in twice.** Let a text be filled in, where the selected references hold
    bytes and share none. Take a selected reference that is a name and ends within the source. In
    the new text its end has moved by the growth of all selected references that end at or before
    its beginning, and there stands an opening bracket.

    So whatever tree a further run works with, every identifier that ends there has arguments, and
    the run goes through the references as if it were not among them. -/
theorem fill_brackets_names (parser : Parser) (dialect : Dialect) (cwd : Location)
    (path source text : String) (count : Nat) (index : Index) (o : Options)
    (errors : List ArityError) :
    let d := Document.ofSource parser dialect source
    let new := Utf8.ofString text
    (fill (dialect.backend parser) cwd path source index o).1 = .ok ⟨some text, count⟩ →
    index.recordsFor cwd path = .ok errors →
    (∀ n ∈ d.selected errors, n.node.span.start < n.node.span.stop) →
    ((d.selected errors).Pairwise fun a b => a.node.span.Disjoint b.node.span) →
    ∀ n ∈ d.selected errors, n.node.kind ≠ "generic_type" →
      n.node.span.stop ≤ (Utf8.ofString source).length →
      ∃ stop : Nat,
        (stop : Int) = n.node.span.stop +
          (((d.fillings errors).filter fun e => e.span.stop ≤ n.node.span.start).map
            Edit.growth).sum ∧
        new[stop]? = some (byte '<') ∧
        ∀ (p : Progress Document) (m : Located), p.document.source = new →
          (m.node.kind = "identifier" ∨ m.node.kind = "property_identifier") →
          m.node.span.stop = stop →
          p.document.hasArguments m.node = true ∧
          ∀ file errors' before after,
            fillReferences file errors' p (before ++ m :: after) =
              fillReferences file errors' p (before ++ after) := by
  intro d new hfill herrors hfull hapart n hn hplain hstop
  have hnew : new = d.filledBytes errors := by
    obtain ⟨heligible, _⟩ := fill_changed hfill rfl
    rw [fill_of_eligible heligible herrors] at hfill
    exact Document.fillDocument_source rfl hfill
  obtain ⟨left, right, hsplit⟩ := List.append_of_mem (Document.mem_byStart.mpr hn)
  obtain ⟨front, rest, haround, hlength⟩ :=
    Document.filledBytes_around hfull hapart hsplit hplain hstop
  obtain ⟨more, hbracket⟩ := d.argumentBytes_eq_cons errors n
  have hname : (d.source.slice n.node.span).length = n.node.span.stop - n.node.span.start :=
    Bytes.length_slice hstop
  -- The name keeps its length, so the bracket stands as far behind its start as its end did.
  have hbyte : new[(front ++ d.source.slice n.node.span).length]? = some (byte '<') := by
    rw [hnew, haround, hbracket, List.append_assoc, List.getElem?_append_right (Nat.le_refl _),
      Nat.sub_self]
    rfl
  refine ⟨(front ++ d.source.slice n.node.span).length, ?_, hbyte, ?_⟩
  · have hbytes := hfull n hn
    rw [List.length_append, hname, Int.natCast_add, hlength, movedTo]
    omega
  · intro p m hsource hkind hend
    have hargs : p.document.hasArguments m.node = true := by
      apply Document.hasArguments_of_bracket hkind
      rw [hsource, hend]
      exact hbyte
    exact ⟨hargs, fun file errors' before after => fillReferences_skip hargs before after⟩

/-! ## A function type with unnamed parameters -/

namespace Sample

/-- A parameter that is a bare name of three bytes. -/
def bareParameter (start : Nat) : Node :=
  ⟨"required_parameter", ⟨start, start + 3⟩, true, none,
    [leaf "identifier" start (start + 3) true (some .pattern)]⟩

/-- A tree of a function type with two parameters, whatever stands behind them. -/
def functionTree (first second : Nat) : Node :=
  ⟨"program", ⟨0, second + 4⟩, true, none,
    [⟨"function_type", ⟨first - 1, second + 4⟩, true, none,
      [⟨"formal_parameters", ⟨first - 1, second + 4⟩, true, none,
        [bareParameter first, bareParameter second]⟩]⟩]⟩

/-- A function type of two names. -/
def functionSource : String := "type F = (Foo, Bar) => void; // @flow"

/-- The same function type, with arguments behind both names. -/
def functionFilled : String := "type F = (Foo<any>, Bar<any, any>) => void; // @flow"

end Sample

/-- Two parameters are filled in. A parser that attaches the arguments to none of them still finds
    the second name with a bracket at its end, and a further run passes it over. -/
theorem fill_brackets_names_parameters :
    let errors := [Sample.errorFrom 10 1, Sample.errorFrom 15 2]
    let d' := Document.ofSource (fun _ _ => Sample.functionTree 10 20) ⟨.tsx, "any"⟩
      Sample.functionFilled
    let bar : Node := Sample.leaf "identifier" 20 23 true (some .pattern)
    (fill (Dialect.backend ⟨.tsx, "any"⟩ fun _ _ => Sample.functionTree 10 15) [] "src/Foo.js"
      Sample.functionSource (Sample.indexOf errors) {}).1 = .ok ⟨some Sample.functionFilled, 2⟩ ∧
    d'.source[23]? = some (byte '<') ∧ d'.hasArguments bar = true ∧
    ∀ above trail, fillReferences "src/Foo.js" [Sample.errorFrom 20 3] ⟨d', 0, []⟩
      [⟨bar, above, trail⟩] = (⟨d', 0, []⟩, none) := by
  intro errors d' bar
  let d := Document.ofSource (fun _ _ => Sample.functionTree 10 15) ⟨.tsx, "any"⟩
    Sample.functionSource
  have hfill : (fill (Dialect.backend ⟨.tsx, "any"⟩ fun _ _ => Sample.functionTree 10 15) []
      "src/Foo.js" Sample.functionSource (Sample.indexOf errors) {}).1 =
      .ok ⟨some Sample.functionFilled, 2⟩ :=
    fill_eq_some errors rfl (by decide +kernel) (by decide +kernel) (by decide +kernel)
      (by decide +kernel) (by decide) (by decide +kernel) (by decide +kernel) (by decide +kernel)
  have hsecond : ∃ n ∈ d.selected errors, n.node.span = ⟨15, 18⟩ ∧ n.node.kind = "identifier" := by
    decide +kernel
  obtain ⟨n, hn, hspan, hkind⟩ := hsecond
  obtain ⟨stop, hstop, hbyte, hlater⟩ := fill_brackets_names (fun _ _ => Sample.functionTree 10 15)
    ⟨.tsx, "any"⟩ [] "src/Foo.js" Sample.functionSource Sample.functionFilled 2
    (Sample.indexOf errors) {} errors hfill (by decide +kernel) (by decide +kernel)
    (by decide +kernel) n hn (by rw [hkind]; decide) (by rw [hspan]; decide +kernel)
  -- The arguments of the first name are five bytes.
  have hmoved :
      (((d.fillings errors).filter fun e => e.span.stop ≤ 15).map Edit.growth).sum = 5 := by
    decide +kernel
  have hat : stop = 23 := by
    rw [hspan] at hstop
    have : (stop : Int) = 18 + 5 := by
      rw [hstop, ← hmoved]
      rfl
    omega
  subst hat
  obtain ⟨hargs, -⟩ := hlater ⟨d', 0, []⟩ ⟨bar, [], []⟩ rfl (.inl rfl) rfl
  refine ⟨hfill, hbyte, hargs, ?_⟩
  intro above trail
  exact (hlater ⟨d', 0, []⟩ ⟨bar, above, trail⟩ rfl (.inl rfl) rfl).2 _ _ [] []

end ArityFill
