import ArityFill.Backend
import ArityFill.Event
import ArityFill.Options
import ArityFill.Report.Index
import ArityFill.Text.Segment

/-! # Filling in type arguments

    A reference is given arguments if it has none yet, is not the operand of a `typeof`, and an
    arity error of the report is about exactly its bytes. The first such error says how many
    arguments it is given; each of them is the placeholder.

    All this is asked of the tree that a backend gives for the text. The walk over the references
    carries a `Progress`. A fault stops the walk, and what was told before it stays told.
-/

namespace ArityFill

open Report (ArityError Index Place)

/-- What filling in a source text comes to. -/
structure Filled where
  /-- The new text, if it changed. -/
  source : Option String
  /-- How many references were given arguments. -/
  count : Nat
  deriving DecidableEq, Repr

/-- Nothing was to be filled in. -/
def Filled.unchanged : Filled := ⟨none, 0⟩

/-- Whether the last component of a path has one of some endings. -/
def isDeclarationFile (path : String) (suffixes : List String) : Bool :=
  let name := (Path.ofString (Path.forward path)).name
  suffixes.any fun s => s.toList.isSuffixOf name.toList

/-- Whether a file is to be looked at: it is not generated, it has opted in or is a declaration
    file, and the report has errors for it. -/
def isEligible (cwd : Location) (path source : String) (index : Index) (o : Options) :
    Except Fault Bool :=
  if !o.generatedMarker.isEmpty && Text.occurs o.generatedMarker.toList source.toList then
    .ok false
  else if !isDeclarationFile path o.declarationSuffixes &&
      !Text.occurs o.optInMarker.toList source.toList then
    .ok false
  else index.hasRecords cwd path

/-- How far the references of a tree have been gone through. -/
structure Progress (τ : Type) where
  /-- The tree with the replacements so far. -/
  document : τ
  /-- How many references were given arguments. -/
  count : Nat
  /-- What there is to tell. -/
  events : List Event

/-- The first error about exactly a place. -/
def errorAt? (errors : List ArityError) (place : Place) : Option ArityError :=
  errors.find? fun e => e.start = place.start ∧ e.stop = place.stop

section
open SyntaxTree
variable {τ ν : Type} [SyntaxTree τ ν]

/-- Whether a node stands inside the operand of a `typeof`. -/
def withinTypeOf (t : τ) (n : ν) : Except Fault Bool :=
  (ancestors t n).anyM fun a => do isTypeOf t (← a)

/-- Looks at one reference, and gives it arguments if it needs them. -/
def fillReference (file : String) (errors : List ArityError) (p : Progress τ) (n : ν) :
    Except Fault (Progress τ) := do
  let t := p.document
  if ← withinTypeOf t n then return p
  if ← hasArguments t n then return p
  let some name ← nameOf? t n | return p
  let some e := errorAt? errors (← place t n) | return p
  let arguments ← (List.replicate e.arity (placeholder t)).mapM id
  let text ← application t n arguments
  let t ← replace t n text
  return ⟨t, p.count + 1, p.events ++ [.given file name e.start e.stop e.arity]⟩

/-- Goes through some references, up to the first fault. -/
def fillReferences (file : String) (errors : List ArityError) :
    Progress τ → List ν → Progress τ × Option Fault
  | p, [] => (p, none)
  | p, n :: ns =>
    match fillReference file errors p n with
    | .ok p => fillReferences file errors p ns
    | .error f => (p, some f)

/-- The text of a tree that has been gone through. -/
def Progress.finish (p : Progress τ) : Except Fault Filled :=
  if p.count = 0 then .ok .unchanged
  else match toSource p.document with
    | .ok s => .ok ⟨some s, p.count⟩
    | .error f => .error f

/-- Fills in the references of a tree. -/
def fillDocument (file : String) (errors : List ArityError) (t : τ) :
    Except Fault Filled × List Event :=
  match references t with
  | .error f => (.error f, [])
  | .ok ns =>
    match fillReferences file errors ⟨t, 0, []⟩ ns with
    | (p, none) => (p.finish, p.events)
    | (p, some f) => (.error f, p.events)

end

/-- Fills in the references of a source text, if the file is to be looked at. -/
def fill (b : Backend) (cwd : Location) (path source : String) (index : Index) (o : Options) :
    Except Fault Filled × List Event :=
  match isEligible cwd path source index o with
  | .error f => (.error f, [])
  | .ok false => (.ok .unchanged, [])
  | .ok true =>
    match index.recordsFor cwd path with
    | .error f => (.error f, [])
    | .ok errors =>
      match b.parse source with
      | .error f => (.error f, [])
      | .ok t => fillDocument path errors t

end ArityFill
