import ArityFill.Document.Reference
import ArityFill.Proofs.Document.Replacements
import ArityFill.Proofs.Text.Synchronized

/-! # Names that are given arguments

    Nothing checks that the span of a node begins and ends between two characters. If the node is a
    name, then it need not be checked: its text is read before it is put back with arguments behind
    it, and bytes of a text that can be read were not cut out of the middle of a character.

    `Whole` is what carries this through any number of replacements:

    - `Whole.giveArguments`: giving one more name its arguments keeps it,
    - `Whole.giveAll`: so does giving arguments to any number of names,
    - `Whole.isText_edited`: and then the edited bytes are text.
-/

namespace ArityFill

/-- Whether a node is its own name. -/
def Node.NamesItself (n : Node) : Prop :=
  n.kind ∈ ["type_identifier", "identifier", "property_identifier", "nested_type_identifier"]

instance (n : Node) : Decidable n.NamesItself :=
  inferInstanceAs (Decidable (n.kind ∈ _))

namespace Document

/-! ## Giving arguments -/

/-- Asks for the replacement of a node by its application to arguments. -/
def giveArguments (d : Document) (n : Node) (args : List String) : Except Fault Document :=
  match d.application n args with
  | .ok text => d.replace n text
  | .error f => .error f

/-- Gives arguments to nodes, one after the other, up to the first fault. -/
def giveAll (d : Document) : List (Node × List String) → Except Fault Document
  | [] => .ok d
  | (n, args) :: calls =>
    match d.giveArguments n args with
    | .ok d' => giveAll d' calls
    | .error f => .error f

theorem nameNode?_of_namesItself {n : Node} (h : n.NamesItself) : nameNode? n = some n := by
  have hkind : n.kind ≠ "generic_type" := by
    intro hgeneric
    rw [Node.NamesItself, hgeneric] at h
    exact absurd h (by decide)
  have hname : plainNames.contains n.kind = true ∨ n.kind = "nested_type_identifier" := by
    simp only [Node.NamesItself, List.mem_cons, List.not_mem_nil, or_false] at h
    rcases h with h | h | h | h <;> simp [plainNames, h]
  rw [nameNode?, if_neg hkind, if_pos hname]

/-- A name that was put into an application could be read. -/
theorem isText_of_application {d : Document} {n : Node} (hname : n.NamesItself)
    {args : List String} {text : String} (h : d.application n args = .ok text) :
    Utf8.IsText (d.source.slice n.span) := by
  simp only [application, nameNode?_of_namesItself hname, textOf] at h
  cases hread : Utf8.toString? (d.source.slice n.span) with
  | some t => exact Utf8.isText_iff_toString?.mpr ⟨t, hread⟩
  | none =>
    rw [hread] at h
    cases h

/-! ## Replacements of whole characters -/

/-- A document of text whose replacements are of whole characters, put in text, and do not
    overlap. -/
structure Whole (d : Document) : Prop extends Orderly d where
  /-- The source is text. -/
  isText : Utf8.IsText d.source
  /-- Every replacement is of some bytes. -/
  nonempty : ∀ e ∈ d.edits, e.span.start < e.span.stop
  /-- They begin and end at boundaries, and text comes in their place. -/
  whole : ∀ e ∈ d.edits, Utf8.Boundary d.source e.span.start ∧
    Utf8.Boundary d.source e.span.stop ∧ Utf8.IsText e.text

theorem Whole.fresh {d : Document} (hsource : Utf8.IsText d.source) (hfresh : d.edits = []) :
    d.Whole := by
  refine { inside := ?_, apart := ?_, isText := hsource, nonempty := ?_, whole := ?_ }
  · rw [hfresh]
    exact fun _ he => nomatch he
  · rw [hfresh]
    exact List.Pairwise.nil
  · rw [hfresh]
    exact fun _ he => nomatch he
  · rw [hfresh]
    exact fun _ he => nomatch he

/-- What giving arguments to a name did, if it was accepted: one replacement more, of text. -/
theorem giveArguments_ok {d d' : Document} {n : Node} {args : List String}
    (h : d.giveArguments n args = .ok d') :
    ∃ text, d.application n args = .ok text ∧ d.request (n, text) = d' ∧
      d' = { d with edits := d.edits ++ [⟨n.span, Utf8.ofString text⟩] } := by
  unfold giveArguments at h
  cases happ : d.application n args with
  | error f =>
    rw [happ] at h
    cases h
  | ok text =>
    rw [happ] at h
    dsimp only at h
    refine ⟨text, rfl, by simp only [request, h], ?_⟩
    rcases d.replace_cases n text with ⟨e, _, _, hrefused⟩ | ⟨_, haccepted⟩
    · rw [hrefused] at h
      cases h
    · rw [haccepted] at h
      exact (Except.ok.inj h).symm

/-- Giving arguments to one more name keeps the replacements whole. -/
theorem Whole.giveArguments {d d' : Document} (hd : d.Whole) {n : Node} {args : List String}
    (hname : n.NamesItself) (hne : n.span.start < n.span.stop)
    (hstop : n.span.stop ≤ d.source.length) (h : d.giveArguments n args = .ok d') : d'.Whole := by
  obtain ⟨text, happ, hrequest, hd'⟩ := giveArguments_ok h
  have horderly : d'.Orderly := by
    rw [← hrequest]
    exact hd.toOrderly.request ⟨Nat.le_of_lt hne, hstop⟩
  have hsource : d'.source = d.source := by rw [hd']
  have hedits : d'.edits = d.edits ++ [⟨n.span, Utf8.ofString text⟩] := by rw [hd']
  -- The name was read, so its bytes are whole characters.
  obtain ⟨hstart, hend⟩ := Utf8.boundaries_of_isText_slice hd.isText hne hstop
    (isText_of_application hname happ)
  refine { horderly with isText := hsource ▸ hd.isText, nonempty := ?_, whole := ?_ }
  · intro e he
    rw [hedits] at he
    rcases List.mem_append.mp he with he | he
    · exact hd.nonempty e he
    · rw [List.mem_singleton.mp he]
      exact hne
  · intro e he
    rw [hedits] at he
    rw [hsource]
    rcases List.mem_append.mp he with he | he
    · exact hd.whole e he
    · rw [List.mem_singleton.mp he]
      exact ⟨hstart, hend, Utf8.isText_ofString text⟩

/-- Giving arguments to any number of names keeps the replacements whole, and records one for each
    of them. -/
theorem Whole.giveAll {d d' : Document} (hd : d.Whole) {calls : List (Node × List String)}
    (hnames : ∀ call ∈ calls, call.1.NamesItself)
    (hinside : ∀ call ∈ calls,
      call.1.span.start < call.1.span.stop ∧ call.1.span.stop ≤ d.source.length)
    (h : d.giveAll calls = .ok d') :
    d'.Whole ∧ d'.source = d.source ∧
      d'.edits.map Edit.span = d.edits.map Edit.span ++ calls.map fun call => call.1.span := by
  induction calls generalizing d with
  | nil =>
    cases h
    exact ⟨hd, rfl, by simp⟩
  | cons call calls ih =>
    obtain ⟨n, args⟩ := call
    rw [Document.giveAll] at h
    split at h
    · next d₁ hstep =>
      have hmem : (n, args) ∈ (n, args) :: calls := List.mem_cons_self
      have hn := hinside _ hmem
      have hd₁ := hd.giveArguments (hnames _ hmem) hn.1 hn.2 hstep
      obtain ⟨text, _, _, rfl⟩ := giveArguments_ok hstep
      obtain ⟨hwhole, hsource, hspans⟩ := ih hd₁
        (fun call hcall => hnames call (List.mem_cons_of_mem _ hcall))
        (fun call hcall => hinside call (List.mem_cons_of_mem _ hcall)) h
      refine ⟨hwhole, hsource, ?_⟩
      rw [hspans]
      simp
    · cases h

/-- Whole replacements are made in reading order. -/
theorem Whole.edited_eq {d : Document} (hd : d.Whole) :
    d.edited = d.source.patch (readingOrder d.edits) := by
  refine applyEdits_fromTheEnd hd.inside hd.apart ?_
  -- There are no insertions that could come too early.
  refine List.Pairwise.imp_of_mem (fun {a b} ha _ _ hempty => ?_) hd.apart
  have := hd.nonempty a ha
  omega

/-- Whole replacements leave text behind. -/
theorem Whole.isText_edited {d : Document} (hd : d.Whole) : Utf8.IsText d.edited := by
  rw [hd.edited_eq]
  refine isText_patchFrom (readingOrder_inOrder hd.inside hd.apart) (.zero hd.isText) ?_
  intro e he
  exact hd.whole e ((readingOrder_perm d.edits).mem_iff.mp he)

/-- **Names that are given arguments never make a text unreadable.** Let a document of text be given
    arguments for some nodes, one after the other. If the nodes are their own names and hold bytes
    of the source, and each application could be put together and was accepted, then there is
    a replacement for each of them and the new text can be read: it is the source with these
    replacements in their places. -/
theorem toSource_of_own_names (d d' : Document) (calls : List (Node × List String))
    (hsource : Utf8.IsText d.source) (hfresh : d.edits = [])
    (hnames : ∀ call ∈ calls, call.1.NamesItself)
    (hinside : ∀ call ∈ calls,
      call.1.span.start < call.1.span.stop ∧ call.1.span.stop ≤ d.source.length)
    (haccepted : d.giveAll calls = .ok d') :
    d'.edits.map Edit.span = (calls.map fun call => call.1.span) ∧
    ∃ text, d'.toSource = .ok text ∧
      Utf8.ofString text = d.source.patch (readingOrder d'.edits) := by
  obtain ⟨hwhole, hsame, hspans⟩ := (Whole.fresh hsource hfresh).giveAll hnames hinside haccepted
  rw [hfresh, List.map_nil, List.nil_append] at hspans
  obtain ⟨text, htext⟩ := Utf8.isText_iff_toString?.mp hwhole.isText_edited
  refine ⟨hspans, text, by simp only [toSource, htext], ?_⟩
  rw [← hsame, ← hwhole.edited_eq]
  exact (Utf8.toString?_eq_some_iff.mp htext).symm

end Document

namespace Sample

/-- A document with names of characters of one, two and three bytes, and some replacements. -/
def accents (edits : List Edit) : Document :=
  ⟨Utf8.ofString "[Ünï, 名.é]", ⟨"tuple_type", ⟨0, 15⟩, true, none, []⟩, "any", [], edits⟩

/-- The first name. -/
def accentName : Node :=
  ⟨"type_identifier", ⟨1, 6⟩, true, none, []⟩

/-- The second name. -/
def accentNested : Node :=
  ⟨"nested_type_identifier", ⟨8, 14⟩, true, none, []⟩

/-- The two replacements, from the right to the left. -/
def accentEdits : List Edit :=
  [⟨⟨8, 14⟩, Utf8.ofString "名.é<ß>"⟩, ⟨⟨1, 6⟩, Utf8.ofString "Ünï<any, €>"⟩]

end Sample

/-- Two names of several bytes a character are given arguments of that kind, the second name
    first. -/
theorem Document.toSource_of_own_names_accents :
    let calls := [(Sample.accentNested, ["ß"]), (Sample.accentName, ["any", "€"])]
    let d := Sample.accents []
    let d' := Sample.accents Sample.accentEdits
    Utf8.IsText d.source ∧
    (∀ call ∈ calls, call.1.NamesItself ∧ call.1.span.start < call.1.span.stop ∧
      call.1.span.stop ≤ d.source.length) ∧
    d.giveAll calls = .ok d' ∧
    ∃ text, d'.toSource = .ok text ∧
      Utf8.ofString text = d.source.patch (readingOrder d'.edits) := by
  intro calls d d'
  have hsource : Utf8.IsText d.source := Utf8.isText_ofString _
  have hcalls : ∀ call ∈ calls, call.1.NamesItself ∧ call.1.span.start < call.1.span.stop ∧
      call.1.span.stop ≤ d.source.length := by decide +kernel
  have hgiven : d.giveAll calls = .ok d' := by
    have hnested : d.application Sample.accentNested ["ß"] = .ok "名.é<ß>" := by decide +kernel
    have hname : (Sample.accents [⟨⟨8, 14⟩, Utf8.ofString "名.é<ß>"⟩]).application
        Sample.accentName ["any", "€"] = .ok "Ünï<any, €>" := by decide +kernel
    have hfirst : d.giveArguments Sample.accentNested ["ß"] =
        .ok (Sample.accents [⟨⟨8, 14⟩, Utf8.ofString "名.é<ß>"⟩]) := by
      rw [giveArguments, hnested]
      rfl
    have hsecond : (Sample.accents [⟨⟨8, 14⟩, Utf8.ofString "名.é<ß>"⟩]).giveArguments
        Sample.accentName ["any", "€"] = .ok d' := by
      rw [giveArguments, hname]
      rfl
    simp only [calls, giveAll, hfirst, hsecond]
  exact ⟨hsource, hcalls, hgiven,
    (toSource_of_own_names d d' calls hsource rfl (fun call hcall => (hcalls call hcall).1)
      (fun call hcall => (hcalls call hcall).2) hgiven).2⟩

end ArityFill
