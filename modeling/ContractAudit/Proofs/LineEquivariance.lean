import ContractAudit.Proofs.Placement
import ContractAudit.Proofs.TriggerShift

/-!
# Moving a source down

Empty lines on top of a source move its findings down and change nothing else about them: the same
detectors fire or fail, each at its old lines plus the number of empty lines, and the same findings
survive deduplication, since lines that were different stay so. What does change is the snippet of a
finding on the first two lines, which had fewer than two lines above it and now has more.
-/
namespace ContractAudit

/-! ## Lines of a source moved down -/

namespace Text

theorem lines_newlines_append (k : Nat) (code : Text) :
    Text.lines (List.replicate k '\n' ++ code) = List.replicate k [] ++ code.lines := by
  induction k with
  | zero => rfl
  | succ k ih =>
    rw [List.replicate_succ, List.cons_append, Source.lines_newline_cons, ih, List.replicate_succ,
      List.cons_append]

theorem unlines_replicate_append (k : Nat) {lines : List Text} (h : lines ≠ []) :
    unlines (List.replicate k [] ++ lines) = List.replicate k '\n' ++ unlines lines := by
  induction k with
  | zero => rfl
  | succ k ih =>
    have hmore : List.replicate k [] ++ lines ≠ [] := by simp [h]
    obtain ⟨line, more, heq⟩ := List.exists_cons_of_ne_nil hmore
    rw [List.replicate_succ, List.cons_append, List.replicate_succ, List.cons_append, ← ih, heq]
    rfl

end Text

namespace Analysis

/-! ## Detectors -/

theorem matchedLines_later (hashes : Bool) (matcher : LineMatcher) (number : Nat)
    (lines : List Text) :
    matchedLines hashes matcher (number + 1) lines =
      (matchedLines hashes matcher number lines).map (· + 1) := by
  induction lines generalizing number with
  | nil => rfl
  | cons line rest ih =>
    rw [matchedLines, matchedLines, ih]
    split
    · simp
    · rfl

theorem located_newline_cons {lines : Text → List Nat} {code : Text}
    (h : lines ('\n' :: code) = (lines code).map (· + 1)) :
    Catalog.Solidity.located lines ('\n' :: code) =
      (Catalog.Solidity.located lines code).map (List.map (· + 1)) := by
  rw [Catalog.Solidity.located, h, List.map_map, Catalog.Solidity.located, Except.map, List.map_map]
  rfl

theorem locate_newline_cons {dialect : Dialect} {d : Detector} (hd : d ∈ Catalog.of dialect)
    (code : Text) :
    locate dialect d ('\n' :: code) = (locate dialect d code).map (List.map (· + 1)) := by
  have hinked := Catalog.matcher_inked dialect d hd
  have hempty : d.matcher.accepts [] = false := by
    refine Bool.eq_false_iff.mpr fun haccepts => ?_
    simpa using LineMatcher.exists_ink_of_accepts hinked haccepts
  unfold locate
  rcases Catalog.locate_cases dialect d hd with hlocate | hlocate | hlocate
  · rw [hlocate]
    simp only [matcherFault?_eq_none hinked, Source.lines_newline_cons, matchedLines, hempty,
      Bool.and_false, matchedLines_later]
    rfl
  · rw [hlocate]
    exact located_newline_cons (Catalog.Solidity.reentrantCalls_newline_cons code)
  · rw [hlocate]
    exact located_newline_cons (Catalog.Solidity.unscopedFunctions_newline_cons code)

theorem evaluate_newline_cons {dialect : Dialect} {d : Detector} (hd : d ∈ Catalog.of dialect)
    (code : Text) :
    evaluate dialect d ('\n' :: code) =
      (evaluate dialect d code).map (Option.map (List.map (· + 1))) := by
  unfold evaluate
  rw [Catalog.trigger_newline_cons dialect code d hd, locate_newline_cons hd]
  rcases d.trigger code with fault | _ | _
  · rfl
  · rfl
  · cases locate dialect d code <;> rfl

theorem evaluate_newlines_append {dialect : Dialect} {d : Detector} (hd : d ∈ Catalog.of dialect)
    (k : Nat) (code : Text) :
    evaluate dialect d (List.replicate k '\n' ++ code) =
      (evaluate dialect d code).map (Option.map (List.map (· + (k : Int)))) := by
  induction k with
  | zero =>
    have hid : (fun n : Int => n + ((0 : Nat) : Int)) = id := by
      funext n
      exact Int.add_zero n
    rw [hid, List.map_id_fun, Option.map_id_fun, List.replicate_zero, List.nil_append]
    cases evaluate dialect d code <;> rfl
  | succ k ih =>
    have hadd : (fun n : Int => n + ((k + 1 : Nat) : Int)) = (· + 1) ∘ (· + (k : Int)) := by
      funext n
      simp only [Function.comp_apply]
      omega
    rw [List.replicate_succ, List.cons_append, evaluate_newline_cons hd, ih, hadd,
      ← List.map_comp_map, ← Option.map_comp_map]
    cases evaluate dialect d code <;> rfl

end Analysis

/-! ## Findings -/

def shiftLine (k : Nat) (n : Int) : Int :=
  if 0 < n then n + k else n

theorem shiftLine_injective (k : Nat) : Function.Injective (shiftLine k) := by
  intro m n h
  unfold shiftLine at h
  split at h <;> split at h <;> omega

namespace Finding

def renumber (k : Nat) (f : Finding) : Finding :=
  { f with
    lineNumber := shiftLine k f.lineNumber
    lineRange := (shiftLine k f.lineRange.1, shiftLine k f.lineRange.2) }

/-- The empty lines that come into the snippet of a finding below `k` new lines: as many as there
are, up to the two lines above its own. -/
def newLinesAbove (k : Nat) (f : Finding) : Nat :=
  if 0 < f.lineNumber then min k (3 - f.lineNumber).toNat else 0

def below (k : Nat) (f : Finding) : Finding :=
  { f.renumber k with
    snippet := String.ofList (List.replicate (f.newLinesAbove k) '\n' ++ f.snippet.toList) }

theorem key_below (k : Nat) (f : Finding) : (f.below k).key = (f.key.1, shiftLine k f.key.2) := rfl

theorem deduplicate_map_below (k : Nat) (findings : List Finding) :
    deduplicate (findings.map (below k)) = (deduplicate findings).map (below k) := by
  apply deduplicate_map (fun key => (key.1, shiftLine k key.2)) _ (key_below k)
  intro a b h
  obtain ⟨hid, hline⟩ := Prod.mk.inj h
  exact Prod.ext hid (shiftLine_injective k hline)

end Finding

namespace Analysis

theorem codeContext_newlines_append {code : Text} {n : Nat} (hpos : 0 < n)
    (hn : n ≤ code.lines.length) (k : Nat) :
    codeContext (Text.lines (List.replicate k '\n' ++ code)) ((n + k : Nat) : Int) snippetContext =
      List.replicate (min k (3 - n)) '\n' ++ codeContext code.lines n snippetContext := by
  have hlength : (Text.lines (List.replicate k '\n' ++ code)).length = k + code.lines.length := by
    simp [Text.lines_newlines_append]
  have hlines : ((Text.lines (List.replicate k '\n' ++ code)).take
        (min (k + code.lines.length) (n + k + 2))).drop (n + k - 3) =
      List.replicate (min k (3 - n)) [] ++
        (code.lines.take (min code.lines.length (n + 2))).drop (n - 3) := by
    have htop : min (min (k + code.lines.length) (n + k + 2)) k = k := by omega
    have hlast : min (k + code.lines.length) (n + k + 2) - k = min code.lines.length (n + 2) := by
      omega
    rw [Text.lines_newlines_append, List.take_append, List.length_replicate, hlast,
      List.take_replicate, htop, List.drop_append, List.drop_replicate, List.length_replicate,
      show k - (n + k - 3) = min k (3 - n) by omega, show n + k - 3 - k = n - 3 by omega]
  rw [codeContext_eq (by omega) (by omega), hlength, hlines, codeContext_eq hpos hn,
    Text.unlines_replicate_append _ (contextLines_ne_nil hpos hn)]

theorem buildFinding_zero_below (d : Detector) (lines lines' : List Text) (confidence : Confidence)
    (k : Nat) :
    buildFinding d lines' 0 confidence = (buildFinding d lines 0 confidence).below k := by
  simp [buildFinding, Finding.below, Finding.renumber, Finding.newLinesAbove, shiftLine,
    codeContext]

theorem buildFinding_succ_below (d : Detector) {code : Text} {i : Nat} (hi : i < code.lines.length)
    (confidence : Confidence) (k : Nat) :
    buildFinding d (Text.lines (List.replicate k '\n' ++ code)) ((i + 1 : Int) + k) confidence =
      (buildFinding d code.lines (i + 1) confidence).below k := by
  have hcontext := codeContext_newlines_append (n := i + 1) (Nat.succ_pos i) hi k
  have hshift : shiftLine k (i + 1) = (i + 1 : Int) + k := if_pos (by omega)
  have hnew : (buildFinding d code.lines (i + 1) confidence).newLinesAbove k =
      min k (3 - (i + 1)) := by
    have hline : (buildFinding d code.lines (i + 1) confidence).lineNumber = (i : Int) + 1 := rfl
    rw [Finding.newLinesAbove, hline, if_pos (by omega)]
    omega
  rw [show ((i + 1 + k : Nat) : Int) = (i + 1 : Int) + k by omega,
    show ((i + 1 : Nat) : Int) = (i : Int) + 1 by omega] at hcontext
  rw [Finding.below, hnew]
  simp only [buildFinding, Finding.renumber, hshift, hcontext, String.toList_ofList]

theorem placements_map_add {located : List Int} (hpos : ∀ n ∈ located, 0 < n) (k : Nat) :
    placements (located.map (· + (k : Int))) =
      (placements located).map fun (n, confidence) => (shiftLine k n, confidence) := by
  unfold placements
  rw [List.isEmpty_map]
  split
  · rfl
  · rw [← List.map_take, List.map_map, List.map_map]
    refine List.map_congr_left fun n hn => ?_
    have hn := hpos n (List.mem_of_mem_take hn)
    simp [shiftLine, hn]

theorem findingsOf_newlines_append {dialect : Dialect} {d : Detector}
    (hd : d ∈ Catalog.of dialect) (extracted : Bool) (k : Nat) (code : Text) :
    findingsOf dialect extracted (List.replicate k '\n' ++ code) d =
      (findingsOf dialect extracted code d).map (Finding.below k) := by
  unfold findingsOf
  rw [evaluate_newlines_append hd]
  rcases hevaluate : evaluate dialect d code with fault | _ | located
  · rfl
  · rfl
  · have hseen {n : Int} (hn : n ∈ located) : ∃ i : Nat, n = i + 1 ∧ i < code.lines.length := by
      obtain ⟨i, hi, hsighting⟩ := sighting_of_evaluate hd hevaluate hn
      exact ⟨i, hi, hsighting.lt⟩
    have hpos (n : Int) (hn : n ∈ located) : 0 < n := by
      obtain ⟨i, rfl, -⟩ := hseen hn
      omega
    simp only [Except.map, Option.map_some, instances, placements_map_add hpos, List.map_map]
    refine List.map_congr_left fun place hplace => ?_
    obtain ⟨n, confidence⟩ := place
    rcases mem_placements hplace with ⟨rfl, rfl⟩ | ⟨hn, rfl⟩
    · exact buildFinding_zero_below d _ _ _ k
    · obtain ⟨i, rfl, hi⟩ := hseen hn
      have hshift : shiftLine k (i + 1) = (i + 1 : Int) + k := if_pos (by omega)
      simp only [Function.comp_apply, hshift]
      exact buildFinding_succ_below d hi _ k

theorem rawFindings_newlines_append (dialect : Dialect) (extracted : Bool) (k : Nat) (code : Text) :
    rawFindings (Catalog.of dialect) dialect extracted (List.replicate k '\n' ++ code) =
      (rawFindings (Catalog.of dialect) dialect extracted code).map (Finding.below k) := by
  rw [rawFindings, rawFindings, List.map_flatMap]
  exact List.flatMap_congr fun d hd => findingsOf_newlines_append hd extracted k code

theorem findings_run_newlines_append (dialect : Dialect) {shape shape' : Structure}
    (h : shape'.isExtracted = shape.isExtracted) (k : Nat) (code : Text) :
    (run (Catalog.of dialect) shape' dialect (List.replicate k '\n' ++ code)).findings =
      (run (Catalog.of dialect) shape dialect code).findings.map (Finding.below k) := by
  simp only [run, h, rawFindings_newlines_append, Finding.deduplicate_map_below]

/-- Renumbering alone is not what happens to a finding: the snippet of one on the first line grows.
-/
theorem run_newline_cons_ne_renumber :
    let code := "tx.origin == a".toList
    let shape : Structure := ⟨.solidity, {}, none⟩
    (run (Catalog.of .solidity) shape .solidity ('\n' :: code)).findings ≠
      (run (Catalog.of .solidity) shape .solidity code).findings.map (Finding.renumber 1) := by
  intro code shape heq
  obtain ⟨f, hf, hline⟩ :
      ∃ f ∈ (run (Catalog.of .solidity) shape .solidity code).findings, f.lineNumber = 1 := by
    decide +kernel
  have hbelow := findings_run_newlines_append .solidity (rfl : shape.isExtracted = _) 1 code
  have hall := List.map_inj_left.mp (hbelow.symm.trans heq) f hf
  have hsnippet := congrArg (fun g : Finding => g.snippet.toList.length) hall
  simp [Finding.below, Finding.renumber, Finding.newLinesAbove, hline] at hsnippet

/-- Below `k` empty lines the same detectors fire and fail, each at its lines moved down by `k`, and
the findings are the same ones in the same order, moved down, with the new empty lines in the
snippets that reach up to them. -/
theorem run_newlines_append (dialect : Dialect) (k : Nat) (code : Text) :
    (∀ d ∈ Catalog.of dialect,
      evaluate dialect d (List.replicate k '\n' ++ code) =
        (evaluate dialect d code).map (Option.map (List.map (· + (k : Int))))) ∧
    ∀ shape shape' : Structure, shape'.isExtracted = shape.isExtracted →
      (run (Catalog.of dialect) shape' dialect (List.replicate k '\n' ++ code)).findings =
        (run (Catalog.of dialect) shape dialect code).findings.map (Finding.below k) :=
  ⟨fun _ hd => evaluate_newlines_append hd k code,
    fun _ _ h => findings_run_newlines_append dialect h k code⟩

/-- Of two new lines above the first line both come into its snippet. -/
theorem run_newlines_append_first_line :
    let code := "tx.origin == a".toList
    let shape : Structure := ⟨.solidity, {}, none⟩
    let shape' : Structure := ⟨.solidity, { name := "A" }, none⟩
    shape'.isExtracted = shape.isExtracted ∧
      ∃ f ∈ (run (Catalog.of .solidity) shape .solidity code).findings, f.lineNumber = 1 ∧
        ∃ g ∈ (run (Catalog.of .solidity) shape' .solidity ('\n' :: '\n' :: code)).findings,
          g.detectorId = f.detectorId ∧ g.lineNumber = 3 ∧
            g.snippet.toList = '\n' :: '\n' :: f.snippet.toList := by
  intro code shape shape'
  obtain ⟨f, hf, hline⟩ :
      ∃ f ∈ (run (Catalog.of .solidity) shape .solidity code).findings, f.lineNumber = 1 := by
    decide +kernel
  have hbelow : (run (Catalog.of .solidity) shape' .solidity ('\n' :: '\n' :: code)).findings =
      (run (Catalog.of .solidity) shape .solidity code).findings.map (Finding.below 2) :=
    (run_newlines_append .solidity 2 code).2 shape shape' rfl
  refine ⟨rfl, f, hf, hline, f.below 2, ?_, rfl, ?_, ?_⟩
  · rw [hbelow]
    exact List.mem_map_of_mem hf
  · simp [Finding.below, Finding.renumber, shiftLine, hline]
  · simp [Finding.below, Finding.newLinesAbove, hline]

end Analysis

end ContractAudit
