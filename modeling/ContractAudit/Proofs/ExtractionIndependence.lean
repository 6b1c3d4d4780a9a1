import ContractAudit.Proofs.Placement
import Mathlib.Data.List.Forall2

/-!
# The structure of a source only tells how sure its findings are

Whatever an extractor does, the same findings come out in the same order. Where it fails, each of
them is reported as it is when nothing is certain; where it succeeds, those with a place are sure. A
failure always has a reason to show, and the names found before it are kept.
-/
namespace ContractAudit

theorem Interruption.reason_ne_empty (i : Interruption) : i.reason ≠ "" := by
  unfold reason
  split
  · exact i.named
  · rename_i htext
    intro h
    simp [h] at htext

theorem ExtractorRegistry.dialect_of_get? {r : ExtractorRegistry} {dialect : Dialect}
    {e : Extractor} (h : r.get? dialect = some e) : e.dialect = dialect := by
  simpa using List.find?_some h

namespace Finding

def unsure (f : Finding) : Finding :=
  { f with confidence := .medium }

theorem deduplicate_map_unsure (findings : List Finding) :
    deduplicate (findings.map unsure) = (deduplicate findings).map unsure := by
  apply deduplicate_map id
  · exact fun _ _ h => h
  · exact fun _ => rfl

theorem eq_of_unsure_eq {f g : Finding} (h : f.unsure = g.unsure) :
    { f with confidence := g.confidence } = g :=
  congrArg (fun u : Finding => { u with confidence := g.confidence }) h

end Finding

namespace Analysis

theorem instances_map_unsure (d : Detector) (located : List Int) (lines : List Text)
    (extracted : Bool) :
    (instances d located lines extracted).map Finding.unsure = instances d located lines false := by
  unfold instances
  rw [List.map_map]
  rfl

theorem findingsOf_map_unsure (dialect : Dialect) (extracted : Bool) (code : Text) (d : Detector) :
    (findingsOf dialect extracted code d).map Finding.unsure = findingsOf dialect false code d := by
  unfold findingsOf
  split
  · exact instances_map_unsure d _ _ extracted
  · rfl

/-- The right side has no extraction in it, so neither has the left. -/
theorem findings_run_map_unsure (catalog : List Detector) (shape : Structure) (dialect : Dialect)
    (code : Text) :
    (run catalog shape dialect code).findings.map Finding.unsure =
      Finding.deduplicate (rawFindings catalog dialect false code) := by
  have hraw : (rawFindings catalog dialect shape.isExtracted code).map Finding.unsure =
      rawFindings catalog dialect false code := by
    simp only [rawFindings, List.map_flatMap, findingsOf_map_unsure]
  rw [← hraw, Finding.deduplicate_map_unsure]
  rfl

theorem confidence_of_not_extracted {catalog : List Detector} {shape : Structure}
    {dialect : Dialect} {code : Text} (hshape : shape.isExtracted = false) {f : Finding}
    (hf : f ∈ (run catalog shape dialect code).findings) : f.confidence = .medium := by
  have hfindings : (run catalog shape dialect code).findings =
      (run catalog shape dialect code).findings.map Finding.unsure := by
    rw [findings_run_map_unsure]
    simp only [run, hshape]
  rw [hfindings] at hf
  obtain ⟨g, -, rfl⟩ := List.mem_map.mp hf
  rfl

theorem confidence_of_extracted {shape : Structure} {dialect : Dialect} {code : Text}
    (hshape : shape.isExtracted = true) {f : Finding}
    (hf : f ∈ (run (Catalog.of dialect) shape dialect code).findings) :
    f.confidence = if 0 < f.lineNumber then .high else .medium := by
  obtain ⟨d, hd, hfd⟩ := List.mem_flatMap.mp (Finding.mem_of_mem_deduplicate hf)
  have hplaced := (placedIn_of_mem_findingsOf hd hfd).confidence
  simpa [hshape] using hplaced

/-- What an analysis makes of what an extractor found in the source, and of its failure. -/
structure Reflects (x : Extraction) (dialect : Dialect) (a : Analysis) : Prop where
  dialect : a.dialect = dialect ∧ a.shape.dialect = dialect
  outline : a.shape.outline = x.outline
  succeeded : x.failure = none → a.shape.isExtracted = true ∧
    ∀ f ∈ a.findings, f.confidence = if 0 < f.lineNumber then .high else .medium
  failed : ∀ i, x.failure = some i → a.shape.isExtracted = false ∧
    (a.shape.failure = some i.reason ∧ i.reason ≠ "") ∧ ∀ f ∈ a.findings, f.confidence = .medium

theorem reflects_run (e : Extractor) (code : Text) :
    Reflects (e.run code) e.dialect
      (run (Catalog.of e.dialect) (e.extract code) e.dialect code) where
  dialect := ⟨rfl, rfl⟩
  outline := rfl
  succeeded hnone := by
    have hextracted : (e.extract code).isExtracted = true := by
      simp [Structure.isExtracted, Extractor.extract, hnone]
    exact ⟨hextracted, fun f hf => confidence_of_extracted hextracted hf⟩
  failed i hi := by
    have hfailure : (e.extract code).failure = some i.reason := by simp [Extractor.extract, hi]
    have hextracted : (e.extract code).isExtracted = false := by
      simp [Structure.isExtracted, hfailure]
    exact ⟨hextracted, ⟨hfailure, i.reason_ne_empty⟩,
      fun f hf => confidence_of_not_extracted hextracted hf⟩

/-- Two registries with an extractor for the dialect, whatever these do, lead to the same findings
in the same order, up to how sure they are; how sure they are, and the structure that goes with
them, is what the extraction says. -/
theorem ofRegistered?_same_findings {r₁ r₂ : ExtractorRegistry} {dialect : Dialect}
    {e₁ e₂ : Extractor} (h₁ : r₁.get? dialect = some e₁) (h₂ : r₂.get? dialect = some e₂)
    (code : Text) :
    ∃ a₁ a₂, ofRegistered? r₁ dialect code = some a₁ ∧ ofRegistered? r₂ dialect code = some a₂ ∧
      List.Forall₂ (fun f g => { f with confidence := g.confidence } = g) a₁.findings a₂.findings ∧
      Reflects (e₁.run code) dialect a₁ ∧ Reflects (e₂.run code) dialect a₂ := by
  have hdialect₁ := ExtractorRegistry.dialect_of_get? h₁
  have hdialect₂ := ExtractorRegistry.dialect_of_get? h₂
  have hsame := (findings_run_map_unsure (Catalog.of dialect) (e₁.extract code) dialect code).trans
    (findings_run_map_unsure (Catalog.of dialect) (e₂.extract code) dialect code).symm
  rw [← List.forall₂_eq_eq_eq, List.forall₂_map_left_iff, List.forall₂_map_right_iff] at hsame
  refine ⟨_, _, by rw [ofRegistered?, h₁]; rfl, by rw [ofRegistered?, h₂]; rfl, ?_,
    hdialect₁ ▸ reflects_run e₁ code, hdialect₂ ▸ reflects_run e₂ code⟩
  exact hsame.imp fun _ _ => Finding.eq_of_unsure_eq

/-- An extractor that finds a function and succeeds, and one that finds an event and then fails
without a text. -/
theorem ofRegistered?_same_findings_unnamed_failure :
    let code := "tx.origin == a".toList
    let finds : Extractor := ⟨"finds", .solidity, fun _ => ⟨{ functions := ["f"] }, none⟩⟩
    let stops : Extractor :=
      ⟨"stops", .solidity, fun _ => ⟨{ events := ["e"] }, some ⟨"KeyError", "", by decide⟩⟩⟩
    let builtin := ExtractorRegistry.builtin fun _ => .error "no parser"
    ∃ a₁ a₂, ofRegistered? (builtin.register finds) .solidity code = some a₁ ∧
      ofRegistered? (ExtractorRegistry.empty.register stops) .solidity code = some a₂ ∧
      List.Forall₂ (fun f g => { f with confidence := g.confidence } = g) a₁.findings a₂.findings ∧
      a₂.shape = ⟨.solidity, { events := ["e"] }, some "KeyError"⟩ ∧
      a₁.findings.map (·.confidence) = [.high, .medium] ∧
      a₂.findings.map (·.confidence) = [.medium, .medium] := by
  intro code finds stops builtin
  have h₁ : (builtin.register finds).get? .solidity = some finds := rfl
  have h₂ : (ExtractorRegistry.empty.register stops).get? .solidity = some stops := rfl
  obtain ⟨a₁, a₂, ha₁, ha₂, hsame, -, -⟩ := ofRegistered?_same_findings h₁ h₂ code
  have hrun₁ : a₁ = run (Catalog.of .solidity) (finds.extract code) .solidity code :=
    (Option.some.inj ha₁).symm
  have hrun₂ : a₂ = run (Catalog.of .solidity) (stops.extract code) .solidity code :=
    (Option.some.inj ha₂).symm
  refine ⟨a₁, a₂, ha₁, ha₂, hsame, ?_, ?_, ?_⟩
  · rw [hrun₂]
    rfl
  · rw [hrun₁]
    decide +kernel
  · rw [hrun₂]
    decide +kernel

end Analysis

end ContractAudit
