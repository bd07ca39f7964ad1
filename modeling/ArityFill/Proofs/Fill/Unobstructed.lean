import ArityFill.Proofs.Document.Regular
import ArityFill.Proofs.Document.Replacements
import ArityFill.Proofs.Fill.File
import ArityFill.Proofs.Fill.Splice
import ArityFill.Proofs.Report.Cache
import ArityFill.Proofs.Report.Load

/-! # Filling in does not get in its own way

    A replacement that overlaps an earlier one is refused, and a node without a name cannot be
    applied to arguments. Either of them would stop the walk, and the whole file would be given up.
    In a regular document neither happens:

    - `Regular.selected_pairwise`: of the references that are selected none contains another one, so
      they stand one behind the other,
    - `fillReference_error`: what can stop a single step,
    - `fillReferences_stopped`: where a walk was stopped, and what it had done until then,
    - `Regular.fillDocument_error`: all in all only bytes that are no text stop it.
-/

namespace ArityFill

open Report (ArityError Index Cache)

/-! ## The selected references -/

namespace Document

/-- In a regular document the selected references stand one behind the other. -/
theorem Regular.selected_pairwise {d : Document} (hd : d.Regular) (errors : List ArityError) :
    (d.selected errors).Pairwise fun a b => a.node.span.stop ≤ b.node.span.start := by
  have hsub : (d.selected errors).Sublist d.root.walk :=
    List.filter_sublist.trans List.filter_sublist
  refine (hd.walk_pairwise.sublist hsub).imp_of_mem ?_
  rintro a b ha hb (hbelow | hbehind)
  · -- A selected reference has no arguments, so there is no reference below it.
    obtain ⟨haref, hasel⟩ := List.mem_filter.mp ha
    obtain ⟨hawalk, haref⟩ := List.mem_filter.mp haref
    have hbref := (List.mem_filter.mp (List.mem_filter.mp hb).1).2
    have hargs : d.hasArguments a.node = false := by
      simp only [isSelected, isOpen, Bool.and_eq_true, Bool.not_eq_true'] at hasel
      exact hasel.1.1.2
    rw [hd.not_isReference_below (Node.mem_walk_iff.mp hawalk) haref hargs hbelow] at hbref
    cases hbref
  · exact hbehind

/-! ## What stops a step -/

theorem textOf_error {d : Document} {n : Node} {f : Fault} (h : d.textOf n = .error f) :
    f = .notText := by
  unfold textOf at h
  split at h
  · cases h
  · cases h
    rfl

theorem textOf_map_error {α : Type} {d : Document} {n : Node} {g : String → α} {f : Fault}
    (h : (d.textOf n).map g = .error f) : f = .notText := by
  cases htext : d.textOf n with
  | error e =>
    rw [htext] at h
    cases h
    exact textOf_error htext
  | ok t =>
    rw [htext] at h
    cases h

/-- Only bytes that are no text keep a name from being read. -/
theorem nameOf?_error {d : Document} {n : Node} {f : Fault} (h : d.nameOf? n = .error f) :
    f = .notText := by
  unfold nameOf? at h
  split at h
  · cases h
  · split at h
    · exact textOf_map_error h
    · split at h
      · -- Of a nested name two texts are read, and each can be the one that fails.
        split at h
        · next qualifier ident _ _ =>
          split at h
          · cases hq : d.textOf qualifier with
            | error g =>
              rw [hq] at h
              cases h
              exact textOf_error hq
            | ok q =>
              cases hi : d.textOf ident with
              | error g =>
                rw [hq, hi] at h
                cases h
                exact textOf_error hi
              | ok i =>
                rw [hq, hi] at h
                cases h
          · cases h
        · cases h
      · cases h

/-- A node that has a name can be applied to arguments, unless its bytes are no text. -/
theorem application_error {d : Document} {n : Node} {name : String} {args : List String}
    {f : Fault} (hname : d.nameOf? n = .ok (some name)) (h : d.application n args = .error f) :
    f = .notText := by
  unfold nameOf? at hname
  unfold application at h
  split at h
  · -- Without a node that names it, it would have no name either.
    next hnone =>
    rw [hnone] at hname
    cases hname
  · exact textOf_map_error h

end Document

section
variable {file : String} {errors : List ArityError}

/-- A step is stopped by bytes that are no text, or by an earlier replacement that overlaps the
    reference. -/
theorem fillReference_error {p : Progress Document} {n : Located} {f : Fault}
    (h : fillReference file errors p n = .error f) :
    f = .notText ∨ p.document.isSelected errors n = true ∧
      ∃ e ∈ p.document.edits, n.node.span.overlaps e.span = true := by
  rw [fillReference_document] at h
  split at h
  · cases h
  · next hwithin =>
    split at h
    · cases h
    · next hargs =>
      split at h
      · next hname =>
        cases h
        exact .inl (Document.nameOf?_error hname)
      · cases h
      · next name hname =>
        split at h
        · cases h
        · next e he =>
          have hsel : p.document.isSelected errors n = true := by
            have hsome := errorAt?_isSome errors n.node.span
            simp [Document.isSelected, Document.isOpen, hwithin, hargs, hname, ← hsome, he]
          split at h
          · -- It has a name, so only the bytes of the name are left to fail.
            next happ =>
            cases h
            exact .inl (Document.application_error hname happ)
          · -- The replacement is refused, so there is one in the way.
            next text _ =>
            rcases p.document.replace_cases n.node text with ⟨e', he', hover, -⟩ | ⟨-, hok⟩
            · exact .inr ⟨hsel, e', he', hover⟩
            · rw [hok] at h
              cases h

/-- A walk that was stopped got through some references, and then one step was stopped. -/
theorem fillReferences_stopped {p p' : Progress Document} {ns : List Located} {f : Fault}
    (h : fillReferences file errors p ns = (p', some f)) :
    ∃ before n after, ns = before ++ n :: after ∧
      fillReferences file errors p before = (p', none) ∧
      fillReference file errors p' n = .error f := by
  induction ns generalizing p with
  | nil => cases h
  | cons n ns ih =>
    rw [fillReferences] at h
    split at h
    · -- The first step went well, so it belongs to what the walk got through.
      next q hq =>
      obtain ⟨before, m, after, rfl, hbefore, hstep⟩ := ih h
      refine ⟨n :: before, m, after, rfl, ?_, hstep⟩
      rw [fillReferences, hq]
      exact hbefore
    · next hq =>
      cases h
      exact ⟨[], n, ns, rfl, rfl, hq⟩

/-! ## Documents -/

namespace Document

/-- Whether the bytes of all names that a walk reads are text. -/
structure Legible (d : Document) (errors : List ArityError) : Prop where
  /-- The names of the references can be looked at. -/
  names : ∀ n ∈ d.references, d.NameReadable n
  /-- The names of the selected references can be written out. -/
  texts : ∀ n ∈ d.selected errors, ∀ m, nameNode? n.node = some m → ∃ t, d.textOf m = .ok t

theorem Aligned.legible {d : Document} (hd : d.Aligned) (errors : List ArityError) :
    d.Legible errors where
  names _ hn _ _ := nameOf?_of_aligned hd (mem_walk_of_mem_references hn)
  texts n hn m hm := by
    have hwalk := mem_walk_of_mem_references (List.mem_filter.mp hn).1
    obtain ⟨l, hl, rfl⟩ := walk_nameNode? hwalk hm
    exact textOf_of_fits (hd l hl)

variable {d : Document} (hd : d.Regular) (hedits : d.edits = [])
include hd hedits

/-- The walk over a regular document is stopped only by bytes that are no text. -/
theorem Regular.fillReferences_error {p : Progress Document} {f : Fault}
    (h : fillReferences file errors ⟨d, 0, []⟩ d.references = (p, some f)) : f = .notText := by
  obtain ⟨before, n, after, hsplit, hbefore, hstep⟩ := fillReferences_stopped h
  obtain ⟨_, _, hdoc⟩ := fillReferences_ok hbefore
  rcases fillReference_error hstep with hf | ⟨hsel, e, he, hover⟩
  · exact hf
  · -- The replacement that is in the way was made for a reference that was selected before.
    rw [hdoc] at hsel he
    have hsame : d.isSelected errors n = true := hsel
    have hmade : e ∈ (before.filter (d.isSelected errors)).map (d.filling errors) := by
      simpa [hedits] using he
    obtain ⟨m, hm, rfl⟩ := List.mem_map.mp hmade
    have hpair := hd.selected_pairwise errors
    rw [selected, hsplit, List.filter_append, List.filter_cons_of_pos hsame,
      List.pairwise_append] at hpair
    have hbehind := hpair.2.2 m hm n List.mem_cons_self
    have hapart : n.node.span.overlaps (d.filling errors m).span = false :=
      Span.overlaps_eq_false_of_disjoint (.inr hbehind)
    rw [hapart] at hover
    cases hover

/-- The walk over a regular document gets through, and asks for the filling of every selected
    reference, if the names are text. -/
theorem Regular.fillReferences_succeeds (hlegible : d.Legible errors) :
    ∃ p, fillReferences file errors ⟨d, 0, []⟩ d.references = (p, none) ∧
      p.document.edits = (d.selected errors).map (d.filling errors) := by
  obtain ⟨p, hp⟩ := @ArityFill.fillReferences_succeeds file errors ⟨d, 0, []⟩ d.references
    hlegible.names (fun n hn hsel => hlegible.texts n (List.mem_filter.mpr ⟨hn, hsel⟩))
    (fun n _ _ e he => by
      rw [show (⟨d, 0, []⟩ : Progress Document).document.edits = [] from hedits] at he
      cases he)
    ((hd.selected_pairwise errors).imp fun h => Span.overlaps_eq_false_of_disjoint (.inr h))
  obtain ⟨_, _, hdoc⟩ := fillReferences_ok hp
  refine ⟨p, hp, ?_⟩
  rw [hdoc]
  show d.edits ++ _ = _
  rw [hedits, List.nil_append]
  rfl

/-- Filling in a regular document is stopped only by bytes that are no text. -/
theorem Regular.fillDocument_error {f : Fault} (h : (fillDocument file errors d).1 = .error f) :
    f = .notText := by
  rw [fillDocument_eq] at h
  split at h
  · next p _ =>
    simp only [Progress.finish, SyntaxTree.toSource, toSource] at h
    split at h
    · cases h
    · split at h
      · cases h
      · next hsource =>
        split at hsource
        · cases hsource
        · cases hsource
          cases h
          rfl
  · next hwalk =>
    cases h
    exact hd.fillReferences_error hedits hwalk

end Document

/-! ## What is told of failures -/

/-- A computation that comes to something went through its first step. -/
theorem exists_of_bind_eq_ok {ε α β : Type} {x : Except ε α} {f : α → Except ε β} {b : β}
    (h : x >>= f = .ok b) : ∃ a, x = .ok a ∧ f a = .ok b := by
  cases x with
  | error e => cases h
  | ok a => exact ⟨a, rfl, h⟩

section
variable {τ ν : Type} [SyntaxTree τ ν]

/-- A step tells at most of a reference that was given arguments. -/
theorem fillReference_events {p p' : Progress τ} {n : ν}
    (h : fillReference file errors p n = .ok p') :
    p'.events = p.events ∨ ∃ name start stop arity,
      p'.events = p.events ++ [.given file name start stop arity] := by
  unfold fillReference at h
  obtain ⟨within, _, h⟩ := exists_of_bind_eq_ok h
  split at h
  · cases h
    exact .inl rfl
  · obtain ⟨has, _, h⟩ := exists_of_bind_eq_ok h
    split at h
    · cases h
      exact .inl rfl
    · obtain ⟨name, _, h⟩ := exists_of_bind_eq_ok h
      split at h
      · obtain ⟨place, _, h⟩ := exists_of_bind_eq_ok h
        split at h
        · -- The last steps may only fail.
          obtain ⟨_, _, h⟩ := exists_of_bind_eq_ok h
          obtain ⟨_, _, h⟩ := exists_of_bind_eq_ok h
          obtain ⟨_, _, h⟩ := exists_of_bind_eq_ok h
          cases h
          exact .inr ⟨_, _, _, _, rfl⟩
        · cases h
          exact .inl rfl
      · cases h
        exact .inl rfl

/-- A walk tells of no failure, not even of the one that stops it. -/
theorem failure?_fillReferences {p : Progress τ} (hp : ∀ e ∈ p.events, e.failure? = none)
    (ns : List ν) :
    ∀ e ∈ (fillReferences file errors p ns).1.events, e.failure? = none := by
  induction ns generalizing p with
  | nil => exact hp
  | cons n ns ih =>
    rw [fillReferences]
    split
    · next q hq =>
      apply ih
      rcases fillReference_events hq with hsame | ⟨name, start, stop, arity, hmore⟩
      · rw [hsame]
        exact hp
      · rw [hmore]
        intro e he
        rcases List.mem_append.mp he with he | he
        · exact hp e he
        · rw [List.mem_singleton.mp he]
          rfl
    · exact hp

/-- Filling in a tree tells of no failure itself. -/
theorem failure?_fillDocument (t : τ) :
    ∀ e ∈ (fillDocument file errors t).2, e.failure? = none := by
  unfold fillDocument
  split
  · exact fun _ he => nomatch he
  · next ns _ =>
    have hwalk := @failure?_fillReferences file errors τ ν _ ⟨t, 0, []⟩ (fun _ he => nomatch he) ns
    split
    · next hp =>
      rw [hp] at hwalk
      exact hwalk
    · next hp =>
      rw [hp] at hwalk
      exact hwalk

end

end

/-- Filling in a text tells of no failure itself, by whatever backend. -/
theorem failure?_fill (b : Backend) (cwd : Location) (path source : String) (index : Index)
    (o : Options) : ∀ e ∈ (fill b cwd path source index o).2, e.failure? = none := by
  unfold fill
  split
  · exact fun _ he => nomatch he
  · exact fun _ he => nomatch he
  · split
    · exact fun _ he => nomatch he
    · split
      · exact fun _ he => nomatch he
      · exact failure?_fillDocument _

namespace Report

/-- A report is stopped by too many digits or by U+0000 in a path. -/
theorem load_error {store : Store} {cwd : Location} {report : Option String} {m : Matching}
    {f : Fault} (h : load store cwd report m = .error f) :
    f = .nullInPath ∨ ∃ count, f = .tooManyDigits count := by
  cases report with
  | none => cases h
  | some path =>
    by_cases hname : path = ""
    · rw [load_of_not_named (.inr (by rw [hname]))] at h
      cases h
    · cases hread : readEntries store cwd path with
      | error g =>
        rw [load_of_readEntries_error hname hread] at h
        cases h
      | ok entries =>
        obtain ⟨_, _, _, _, _, hstops⟩ := (load_eq_error_iff hname hread).mp h
        cases hstops with
        | digits => exact .inr ⟨_, rfl⟩
        | null => exact .inl rfl

/-- Loading a report tells of no failure to fill in a file. -/
theorem failure?_load {store : Store} {cwd : Location} {report : Option String} {m : Matching}
    {index : Index} {event : Event} (h : load store cwd report m = .ok (index, event)) :
    event.failure? = none := by
  unfold load at h
  split at h
  · cases h
    rfl
  · split at h
    · cases h
      rfl
    · split at h
      · cases h
        rfl
      · split at h
        · cases h
        · cases h
          rfl

theorem Index.hasRecords_error {cwd : Location} {index : Index} {path : String} {f : Fault}
    (h : index.hasRecords cwd path = .error f) : f = .nullInPath := by
  unfold Index.hasRecords at h
  split at h
  · cases h
  · next hkey =>
    cases h
    exact (key_eq_error_iff.mp hkey).2.2

theorem Index.recordsFor_error {cwd : Location} {index : Index} {path : String} {f : Fault}
    (h : index.recordsFor cwd path = .error f) : f = .nullInPath := by
  unfold Index.recordsFor at h
  split at h
  · cases h
  · next hkey =>
    cases h
    exact (key_eq_error_iff.mp hkey).2.2

end Report

theorem isEligible_error {cwd : Location} {path source : String} {index : Index} {o : Options}
    {f : Fault} (h : isEligible cwd path source index o = .error f) : f = .nullInPath := by
  unfold isEligible at h
  split at h
  · cases h
  · split at h
    · cases h
    · exact Report.Index.hasRecords_error h

/-! ## Files -/

section
variable {w : Workspace} {dialect : Dialect} {path source : String} {o : Options} {f : Fault}
  (hd : (Document.ofSource w.parser dialect source).Regular)
include hd

/-- A text whose document is regular is filled in, unless its path has no key or there are bytes
    that are no text. -/
theorem Document.Regular.fill_error {index : Index}
    (h : (fill (dialect.backend w.parser) w.cwd path source index o).1 = .error f) :
    f = .notText ∨ f = .nullInPath := by
  unfold fill at h
  split at h
  · next heligible =>
    cases h
    exact .inr (isEligible_error heligible)
  · cases h
  · split at h
    · next hrecords =>
      cases h
      exact .inr (Report.Index.recordsFor_error hrecords)
    · exact .inl (hd.fillDocument_error rfl h)

theorem Document.Regular.failure?_fillWithIndex {index : Index} {chosen : Option Backend}
    (hbackend : backendFor w o path chosen = .ok (dialect.backend w.parser)) {e : Event}
    (he : e ∈ (fillWithIndex w path source o chosen index).2) (hf : e.failure? = some f) :
    f = .notText ∨ f = .nullInPath := by
  unfold fillWithIndex at he
  split at he
  · next hrecords =>
    rw [List.mem_singleton.mp he] at hf
    cases hf
    exact .inr (Report.Index.hasRecords_error hrecords)
  · cases he
  · rw [hbackend] at he
    dsimp only at he
    have hquiet := failure?_fill (dialect.backend w.parser) w.cwd path source index o
    split at he
    · next hfill =>
      rw [hfill] at hquiet
      rw [hquiet e he] at hf
      cases hf
    · next g events hfill =>
      rw [hfill] at hquiet
      rcases List.mem_append.mp he with he | he
      · rw [hquiet e he] at hf
        cases hf
      · rw [List.mem_singleton.mp he] at hf
        cases hf
        exact hd.fill_error (congrArg Prod.fst hfill)

/-- Filling in a file whose document is regular fails only for reasons that lie in the report, in
    the path, or in bytes that are no text. -/
theorem Document.Regular.failure?_fillFile {store : Store} {cache : Cache}
    {chosen : Option Backend}
    (hbackend : backendFor w o path chosen = .ok (dialect.backend w.parser)) {e : Event}
    (he : e ∈ (fillFile w store cache path source o chosen).events) (hf : e.failure? = some f) :
    f = .notText ∨ f = .nullInPath ∨ ∃ count, f = .tooManyDigits count := by
  unfold fillFile at he
  rcases cache.get_cases store w.cwd o.errors o.matching with
    ⟨found, _, hget⟩ | ⟨_, ⟨index, event, hload, hget⟩ | ⟨g, hload, hget⟩⟩
  · rw [hget] at he
    exact (hd.failure?_fillWithIndex hbackend he hf).imp_right .inl
  · rw [hget] at he
    rcases List.mem_cons.mp he with rfl | he
    · rw [Report.failure?_load hload] at hf
      cases hf
    · exact (hd.failure?_fillWithIndex hbackend he hf).imp_right .inl
  · rw [hget] at he
    rw [List.mem_singleton.mp he] at hf
    cases hf
    exact .inr (Report.load_error hload)

end

/-- **Filling in is never stopped by itself.** In a regular document no replacement that is asked
    for overlaps an earlier one, and nothing is applied that has no name. So if the names are text,
    the walk gets through and asks for the filling of every selected reference; and whatever else
    stops the filling in of a document, a text or a file lies in bytes that are no text, in the
    path, or in the report. -/
theorem fill_unobstructed (d : Document) (path : String) (hd : d.Regular) (hedits : d.edits = []) :
    (∀ errors, d.Legible errors →
      ∃ p, fillReferences path errors ⟨d, 0, []⟩ d.references = (p, none) ∧
        p.document.edits = (d.selected errors).map (d.filling errors)) ∧
    (∀ errors f, (fillDocument path errors d).1 = .error f → f = .notText) ∧
    ∀ (w : Workspace) (dialect : Dialect) (source : String) (o : Options),
      d = Document.ofSource w.parser dialect source →
      (∀ index f, (fill (dialect.backend w.parser) w.cwd path source index o).1 = .error f →
        f = .notText ∨ f = .nullInPath) ∧
      (∀ store cache chosen, backendFor w o path chosen = .ok (dialect.backend w.parser) →
        ∀ e ∈ (fillFile w store cache path source o chosen).events, ∀ f, e.failure? = some f →
          f = .notText ∨ f = .nullInPath ∨ ∃ count, f = .tooManyDigits count) := by
  refine ⟨fun errors h => hd.fillReferences_succeeds hedits h,
    fun errors f h => hd.fillDocument_error hedits h, ?_⟩
  rintro w dialect source o rfl
  constructor
  · intro index f h
    exact hd.fill_error h
  · intro store cache chosen hbackend e he f hf
    exact hd.failure?_fillFile hbackend he hf

/-! ## A reference of every sort -/

namespace Sample

/-- A source with a nested name, a bare name among parameters, a plain name, and a name behind a
    spread. -/
def sortsSource : String := "type A = [n.Q, (P) => T, {...S}]; // @flow"

/-- The tree of that source, with what stands between the last brace and the name in it. -/
def sortsTree (spread : List Node) : Node :=
  ⟨"program", ⟨0, 42⟩, true, none,
    [⟨"type_alias_declaration", ⟨0, 33⟩, true, none,
      [leaf "type" 0 4 false none, typeName 5 6 (some .name), leaf "=" 7 8 false none,
       ⟨"tuple_type", ⟨9, 32⟩, true, none,
        [leaf "[" 9 10 false none,
         ⟨"nested_type_identifier", ⟨10, 13⟩, true, none,
          [leaf "identifier" 10 11 true (some .qualifier), leaf "." 11 12 false none,
           typeName 12 13 (some .name)]⟩,
         leaf "," 13 14 false none,
         ⟨"function_type", ⟨15, 23⟩, true, none,
          [⟨"formal_parameters", ⟨15, 18⟩, true, none,
            [leaf "(" 15 16 false none,
             ⟨"required_parameter", ⟨16, 17⟩, true, none,
              [leaf "identifier" 16 17 true (some .pattern)]⟩,
             leaf ")" 17 18 false none]⟩,
           leaf "=>" 19 21 false none, typeName 22 23 none]⟩,
         leaf "," 23 24 false none,
         ⟨"object_type", ⟨25, 31⟩, true, none,
          leaf "\x7b" 25 26 false none :: spread ++
          [⟨"property_signature", ⟨29, 30⟩, true, none,
            [leaf "property_identifier" 29 30 true (some .name)]⟩,
           leaf "\x7d" 30 31 false none]⟩,
         leaf "]" 31 32 false none]⟩,
       leaf ";" 32 33 false none]⟩,
     leaf "comment" 34 42 true none]⟩

/-- Parses that source. The grammar has no spread in a type, so the dots are an error. -/
def sortsParser : Parser := fun _ text =>
  if text[26]? = some (byte '.') then
    sortsTree [⟨"ERROR", ⟨26, 29⟩, true, none, [leaf "..." 26 29 false none]⟩]
  else sortsTree []

/-- An error about each of the four. -/
def sortsErrors : List ArityError :=
  [⟨"/repo/Foo.js", 29, 30, 1⟩, ⟨"/repo/Foo.js", 22, 23, 1⟩, ⟨"/repo/Foo.js", 16, 17, 2⟩,
   ⟨"/repo/Foo.js", 10, 13, 1⟩]

end Sample

/-- References of all sorts are given arguments in one walk. -/
theorem fill_unobstructed_sorts :
    let d := Document.ofSource Sample.sortsParser ⟨.tsx, "any"⟩ Sample.sortsSource
    d.Regular ∧ d.Legible Sample.sortsErrors ∧
    (∃ p, fillReferences "src/Foo.js" Sample.sortsErrors ⟨d, 0, []⟩ d.references = (p, none) ∧
      p.document.edits =
        [⟨⟨10, 13⟩, Utf8.ofString "n.Q<any>"⟩, ⟨⟨16, 17⟩, Utf8.ofString "P<any, any>"⟩,
         ⟨⟨22, 23⟩, Utf8.ofString "T<any>"⟩, ⟨⟨29, 30⟩, Utf8.ofString "S<any>"⟩]) := by
  intro d
  have hregular : d.Regular := by decide +kernel
  have haligned : d.Aligned := by decide +kernel
  have hlegible := haligned.legible Sample.sortsErrors
  obtain ⟨hwalk, -⟩ := fill_unobstructed d "src/Foo.js" hregular rfl
  obtain ⟨p, hp, hedits⟩ := hwalk _ hlegible
  refine ⟨hregular, hlegible, p, hp, ?_⟩
  rw [hedits]
  decide +kernel

end ArityFill
