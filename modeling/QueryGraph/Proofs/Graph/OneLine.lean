import QueryGraph.Proofs.Graph.Elements
import QueryGraph.Proofs.Json.Controls

/-!
# `Proofs.Graph.OneLine` — a compact document is one line

Whoever reads documents line by line relies on each of them being one line. What a query is made of may
hold any characters: the type of a query, names, IRIs and values, and the names and namespaces of its
prefixes. They get into many places of a document, into ids and labels as well as into names of members;
but there they all stand in string literals, and those hold no control characters.

## Contents
- `GraphModel.isExact_toValue`, `GraphModel.depth_toValue_le`, `GraphModel.decode_write_toValue` — both
  forms can be decoded, without the line feed at the end.
- `GraphModel.document_fits_line` — the main statement.
-/

namespace QueryGraph

open Json

namespace GraphModel

theorem isExact_toValue {g : GraphModel} (h : g.FitsWords) (format : Format) :
    (g.toValue format).IsExact := by
  cases format with
  | json => exact isExact_toJson h
  | cytoscape => exact isExact_toElements h

theorem depth_toValue_le (g : GraphModel) (format : Format) : (g.toValue format).depth ≤ 5 := by
  cases format with
  | json => exact g.depth_toJson_le
  | cytoscape => exact g.depth_toElements_le

/-- What is written of a graph, in either form, is decoded without the line feed that ends a document. -/
theorem decode_write_toValue {g : GraphModel} (h : g.FitsWords) (format : Format) (layout : Layout) :
    decode (String.ofList ((g.toValue format).write layout)) = .ok (g.toValue format) := by
  have hdepth : (g.toValue format).depth ≤ depthLimit :=
    Nat.le_trans (g.depth_toValue_le format) (by decide)
  have hdecode : decode (String.ofList ((g.toValue format).write layout ++ [])) =
      .ok (g.toValue format) :=
    decode_write (isExact_toValue h format) hdepth (by simp)
  rwa [List.append_nil] at hdecode

/-- **A compact document is one line**, in either form and whatever the texts of the graph hold: there is
no control character in it but a line feed, which is its last character. What stands before the line feed
is decoded to the value of the graph, if its counts are words. In the other layout there may be more line
feeds, and no other control characters. -/
theorem document_fits_line (g : GraphModel) (format : Format) :
    (∃ line, g.document format .compact = line ++ "\n" ∧ (∀ c ∈ line.toList, ¬ IsControl c) ∧
      (g.FitsWords → decode line = .ok (g.toValue format))) ∧
    ∀ c ∈ (g.document format .pretty).toList, IsControl c → c = '\n' := by
  refine ⟨⟨String.ofList ((g.toValue format).write .compact), ?_, ?_, ?_⟩, ?_⟩
  · rw [document, Value.document, String.ofList_append]
  · intro c hc
    rw [String.toList_ofList] at hc
    exact not_isControl_of_mem_compact hc
  · intro hwords
    exact decode_write_toValue hwords format .compact
  · intro c hc hcontrol
    exact eq_newline_of_mem_document hc hcontrol

end GraphModel

namespace Query

/-- A query with control characters in its type, in the name and the namespace of a prefix, and in all of
its terms. -/
def brokenLines : Query where
  queryType := some "SELECT\n"
  kind := none
  prefixes := .ofList [("\t", "http://x/\r\n")]
  projection := some (.items [.var "x\n"])
  patterns := some [.graph (.iri "http://x/\r\n\x00") [.basic [
    ⟨.var "x\n", .term (.iri "http://x/\r\np\"\\"), .literal ⟨"\x1f\x7f", some "\x0b", none⟩⟩]]]

/-- Its documents are one line each, and what stands there is decoded to the texts with all their control
characters. -/
theorem document_fits_line_brokenLines :
    (brokenLines.build .standard).FitsWords ∧
    (brokenLines.build .standard).edges.map (fun e => (e.id, e.graph)) =
      [("e:var:?x\n::\t:p\"\\::lit:\x1f\x7f|\x0b|::0", some "\t:\x00")] ∧
    ∀ format, ∃ line, (brokenLines.build .standard).document format .compact = line ++ "\n" ∧
      (∀ c ∈ line.toList, ¬ IsControl c) ∧
      decode line = .ok ((brokenLines.build .standard).toValue format) := by
  have hwords : (brokenLines.build .standard).FitsWords :=
    fitsWords_build ⟨by decide, by decide, by decide⟩ .standard
  refine ⟨hwords, ?_, ?_⟩
  · rw [edges_build]
    decide
  · intro format
    obtain ⟨⟨line, hdocument, hplain, hdecode⟩, -⟩ :=
      (brokenLines.build .standard).document_fits_line format
    exact ⟨line, hdocument, hplain, hdecode hwords⟩

end Query

end QueryGraph
