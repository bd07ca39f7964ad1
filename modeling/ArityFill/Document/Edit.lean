import ArityFill.Document.Basic

/-! # Replacements

    Replacements are collected and made all at once. Since each is a span of the source, they are
    made from the end of the source to its beginning, so that none moves the bytes of another.
-/

namespace ArityFill

/-- The bytes with replacements made one after the other. -/
def applyEdits (bytes : Bytes) (edits : List Edit) : Bytes :=
  edits.foldl (fun bs e => bs.splice e.span e.text) bytes

/-- Replacements from the last start to the first. Those with one start keep their order. -/
def fromTheEnd (edits : List Edit) : List Edit :=
  edits.mergeSort fun a b => b.span.start ≤ a.span.start

namespace Document

/-- Asks for the replacement of a node. It must not overlap an earlier one. -/
def replace (d : Document) (n : Node) (text : String) : Except Fault Document :=
  match d.edits.find? fun e => n.span.overlaps e.span with
  | some e => .error (.overlap n.span e.span)
  | none => .ok { d with edits := d.edits ++ [⟨n.span, Utf8.ofString text⟩] }

/-- The bytes of the source with all replacements made. -/
def edited (d : Document) : Bytes :=
  applyEdits d.source (fromTheEnd d.edits)

/-- The source text with all replacements made. -/
def toSource (d : Document) : Except Fault String :=
  match Utf8.toString? d.edited with
  | some s => .ok s
  | none => .error .notText

end Document

end ArityFill
