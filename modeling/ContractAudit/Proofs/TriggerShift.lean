import ContractAudit.Catalog.All
import ContractAudit.Proofs.BlockLocality
import ContractAudit.Proofs.PatternShift

/-!
# Triggers below an empty line

An empty line on top of a source moves everything down by one line, and no trigger notices. What is
found in the source is found again: the same matches one character further on, the same blocks,
contracts and entry points one line further down. Windows and decorators reach up from where they
belong, so they may come to hold the new line, but there is nothing on it to see.
-/
namespace ContractAudit

theorem takeWhile_append_stop {α : Type} {p : α → Bool} {a : α} (h : p a = false) (l : List α) :
    (l ++ [a]).takeWhile p = l.takeWhile p := by
  induction l with
  | nil => simp [h]
  | cons b l ih => simp only [List.cons_append, List.takeWhile_cons, ih]

theorem Text.mentions_newline_cons {piece : String}
    (h : (piece.toList.head?.any (· != '\n')) = true) (t : Text) :
    Text.mentions ('\n' :: t) piece = Text.mentions t piece := by
  unfold Text.mentions
  cases hpiece : piece.toList with
  | nil => simp [hpiece] at h
  | cons c rest =>
    have hc : c ≠ '\n' := by simpa [hpiece] using h
    simp [Text.holds, hc]

namespace Source

theorem bare_newline_cons (code : Text) : bare ('\n' :: code) = '\n' :: bare code := by
  simp [bare, dropBlockComments, opensBlock, dropLineComments, opensQuote]

theorem hashless_newline_cons (code : Text) : hashless ('\n' :: code) = '\n' :: hashless code := by
  simp [hashless, dropHashComments]

theorem lineNumberAt_newline_cons (t : Text) (offset : Nat) :
    lineNumberAt ('\n' :: t) (offset + 1) = lineNumberAt t offset + 1 := by
  simp [lineNumberAt, Text.newlines]

/-! ## Blocks -/

def Block.later (b : Block) : Block :=
  { b with start := b.start + 1 }

theorem Block.body_later (b : Block) : b.later.body = b.body := rfl

theorem blocksFrom_later (header : Pattern) (number : Nat) (lines : List Text) :
    blocksFrom header (number + 1) lines = (blocksFrom header number lines).map Block.later :=
  blocksFrom_moved header 1 number lines

theorem blocksFrom_bare_newline_cons {header : Pattern} (h : header.occursIn [] = false)
    (code : Text) :
    blocksFrom header 1 (bare ('\n' :: code)).lines =
      (blocksFrom header 1 (bare code).lines).map Block.later := by
  rw [bare_newline_cons, lines_newline_cons, blocksFrom, h, ← blocksFrom_later]
  rfl

theorem functionBlocks_newline_cons (code : Text) :
    functionBlocks ('\n' :: code) = (functionBlocks code).map Block.later :=
  blocksFrom_bare_newline_cons (by decide) code

theorem loopBlocks_newline_cons (code : Text) :
    loopBlocks ('\n' :: code) = (loopBlocks code).map Block.later :=
  blocksFrom_bare_newline_cons (by decide) code

/-! ## Contracts -/

def memberLater (member : Nat × Text) : Nat × Text :=
  (member.1 + 1, member.2)

def OpenContract.later (c : OpenContract) : OpenContract :=
  { c with start := c.start + 1, members := c.members.map memberLater }

def Contract.later (c : Contract) : Contract :=
  { c with start := c.start + 1, members := c.members.map memberLater }

theorem Contract.name_later (c : Contract) : c.later.name = c.name := rfl

theorem Contract.parents_later (c : Contract) : c.later.parents = c.parents := rfl

theorem Contract.members_later (c : Contract) :
    c.later.members = c.members.map memberLater := rfl

theorem OpenContract.addMember_later (c : OpenContract) (number : Nat) (line : Text) :
    c.later.addMember (number + 1) line = (c.addMember number line).later := by
  have hdirect : (c.later.opened && c.later.depth == 1) = (c.opened && c.depth == 1) := rfl
  rw [addMember, addMember, hdirect]
  split <;> rfl

theorem OpenContract.close_later (c : OpenContract) : c.later.close = c.close.later := by
  simp [close, later, Contract.later]

theorem openContract?_later (number : Nat) (line : Text) :
    openContract? (number + 1) line = (openContract? number line).map OpenContract.later := by
  simp only [openContract?, Option.map_map]
  rfl

theorem contractsFrom_later (current : Option OpenContract) (number : Nat) (lines : List Text) :
    contractsFrom (current.map OpenContract.later) (number + 1) lines =
      (contractsFrom current number lines).map Contract.later := by
  induction lines generalizing current number with
  | nil => rfl
  | cons line rest ih =>
    have hcount (c : OpenContract) : contractsFrom (some c.later) (number + 1 + 1) rest =
        (contractsFrom (some c) (number + 1) rest).map Contract.later := ih (some c) (number + 1)
    have hnone : contractsFrom none (number + 1 + 1) rest =
        (contractsFrom none (number + 1) rest).map Contract.later := ih none (number + 1)
    have hstep (c : OpenContract) :
        (if (c.later.countBraces line).isFinished = true then
            (c.later.countBraces line).close :: contractsFrom none (number + 1 + 1) rest
          else contractsFrom (some (c.later.countBraces line)) (number + 1 + 1) rest) =
        (if (c.countBraces line).isFinished = true then
            (c.countBraces line).close :: contractsFrom none (number + 1) rest
          else contractsFrom (some (c.countBraces line)) (number + 1) rest).map Contract.later := by
      have hbraces : c.later.countBraces line = (c.countBraces line).later := rfl
      have hfinished :
          (c.countBraces line).later.isFinished = (c.countBraces line).isFinished := rfl
      rw [hbraces, hfinished, hnone, hcount, OpenContract.close_later]
      split <;> simp
    cases current with
    | none =>
      simp only [contractsFrom, Option.map_none, openContract?_later]
      cases openContract? number line with
      | none => exact hnone
      | some c => exact hstep c
    | some c =>
      simp only [contractsFrom, Option.map_some, OpenContract.addMember_later]
      exact hstep _

theorem contracts_newline_cons (code : Text) :
    contracts ('\n' :: code) = (contracts code).map Contract.later := by
  have hempty : openContract? 1 [] = none := by
    have hmatch : contractHeader.opens [] = false := by decide
    simpa [openContract?, Pattern.opens] using hmatch
  rw [contracts, bare_newline_cons, lines_newline_cons, contractsFrom, hempty]
  exact contractsFrom_later none 1 _

def StateVariable.later (v : StateVariable) : StateVariable :=
  { v with line := v.line + 1 }

theorem StateVariable.name_later (v : StateVariable) : v.later.name = v.name := rfl

theorem StateVariable.qualifiers_later (v : StateVariable) :
    v.later.qualifiers = v.qualifiers := rfl

theorem Contract.stateVariables_later (c : Contract) :
    c.later.stateVariables = c.stateVariables.map StateVariable.later := by
  simp only [stateVariables, later, List.filterMap_map, List.map_filterMap, stateVariable?,
    Option.map_map]
  rfl

/-! ## The compiler version -/

theorem pragma?_newline_cons (code : Text) : pragma? ('\n' :: code) = pragma? code := by
  rw [pragma?, bare_newline_cons,
    Pattern.find?_newline_cons (by decide) (by decide), Option.map_map]
  rfl

end Source

/-! ## Solidity -/

namespace Catalog.Solidity

open Source

theorem reentrantCalls_newline_cons (code : Text) :
    reentrantCalls ('\n' :: code) = (reentrantCalls code).map (· + 1) := by
  have hblock (b : Block) : reentrantCallsOf b.later = (reentrantCallsOf b).map (· + 1) :=
    reentrantCallsOf_moved 1 b
  simp only [reentrantCalls, functionBlocks_newline_cons, List.flatMap_map, hblock,
    List.map_flatMap]

theorem unscopedFunctions_newline_cons (code : Text) :
    unscopedFunctions ('\n' :: code) = (unscopedFunctions code).map (· + 1) := by
  simp only [unscopedFunctions, bare_newline_cons]
  rw [Pattern.findAll_newline_cons (by decide) (by decide)]
  simp only [List.filter_map, List.map_map, Function.comp_def, Pattern.Match.text_later,
    ← lineNumberAt_newline_cons]
  rfl

theorem variablesOf_later (all : List Contract) (name : Text) :
    variablesOf (all.map Contract.later) name = variablesOf all name := by
  simp only [variablesOf, ← List.map_reverse, List.find?_map, Function.comp_def,
    Contract.name_later]
  cases all.reverse.find? fun c => c.name == name with
  | none => rfl
  | some c =>
    simp only [Option.map_some, Contract.stateVariables_later, List.map_map, Function.comp_def,
      StateVariable.name_later]

theorem declaredVersion_newline_cons (code : Text) :
    declaredVersion ('\n' :: code) = declaredVersion code := by
  rw [declaredVersion, declaredVersion, version?, version?, pragma?_newline_cons]

theorem contains_rightToLeftOverride_newline_cons (code : Text) :
    ('\n' :: code).contains rightToLeftOverride = List.contains code rightToLeftOverride := by
  rw [List.contains_cons, show (rightToLeftOverride == '\n') = false by decide, Bool.false_or]

theorem trigger_newline_cons (code : Text) :
    ∀ d ∈ detectors, d.trigger ('\n' :: code) = d.trigger code := by
  have hguarded (b : Block) : isGuarded b.later = isGuarded b := rfl
  have hwithdrawal (b : Block) : isOpenWithdrawal b.later = isOpenWithdrawal b := rfl
  have haddress (b : Block) : storesUncheckedAddress b.later = storesUncheckedAddress b := rfl
  simp (disch := decide) only [detectors, List.forall_mem_cons, Trigger.when,
    Trigger.occurs, bare_newline_cons, Pattern.occursIn_newline_cons, Text.mentions_newline_cons,
    contains_rightToLeftOverride_newline_cons,
    reentrantCalls_newline_cons, unscopedFunctions_newline_cons, List.isEmpty_map,
    List.any_map, Function.comp_def,
    hasUnprotectedSelfDestruct, hasOpenWithdrawal, hasUncheckedAddress, functionBlocks_newline_cons,
    hasCallInLoop, loopBlocks_newline_cons, hguarded, hwithdrawal, haddress, Block.body_later,
    hasHiddenVisibility, hasShadowing, hasMisnamedConstructor, contracts_newline_cons,
    variablesOf_later, Contract.stateVariables_later, StateVariable.qualifiers_later,
    Contract.name_later, Contract.parents_later, Contract.members_later, memberLater,
    hasFloatingPragma, pragma?_newline_cons, outdatedCompiler, uncheckedArithmetic,
    declaredVersion_newline_cons, hasMalleableSignature, hasUncheckedRecovery, lacksNonce,
    hasHashCollision, hasApproveRace, hasGasGriefing, hasFunctionJump, hasStaleOracle,
    hasSingleStepOwnership, true_and]
  exact List.forall_mem_nil _

end Catalog.Solidity

/-! ## Cairo -/

namespace Catalog.Cairo

open Source

theorem codeLines_newline_cons (code : Text) : codeLines ('\n' :: code) = [] :: codeLines code := by
  rw [codeLines, bare_newline_cons, lines_newline_cons, codeLines]

theorem nextCode?_later (index : Nat) (lines : List Text) :
    nextCode? (index + 1) lines = (nextCode? index lines).map fun (i, line) => (i + 1, line) := by
  induction lines generalizing index with
  | nil => rfl
  | cons line rest ih =>
    rw [nextCode?, nextCode?, ih]
    split <;> rfl

theorem stepOutside_later (state : EntryScan) (index : Nat) (line : Text) (rest : List Text) :
    stepOutside state (index + 1) line rest =
      ((stepOutside state index line rest).1,
        (stepOutside state index line rest).2.map (· + 1)) := by
  unfold stepOutside
  rw [nextCode?_later]
  split
  · cases nextCode? (index + 1) rest with
    | none => rfl
    | some following =>
      simp only [Option.map_some]
      split <;> rfl
  · rfl

theorem entryStep_later (state : EntryScan) (index : Nat) (line : Text) (rest : List Text) :
    entryStep state (index + 1) line rest =
      ((entryStep state index line rest).1, (entryStep state index line rest).2.map (· + 1)) := by
  cases state with
  | outside => exact stepOutside_later .outside index line rest
  | awaitingBlock =>
    simp only [entryStep]
    split
    · rfl
    · exact stepOutside_later .awaitingBlock index line rest
  | inBlock depth =>
    simp only [entryStep, Prod.mk.injEq, true_and]
    split <;> rfl

theorem entryPointsFrom_later (state : EntryScan) (index : Nat) (lines : List Text) :
    entryPointsFrom state (index + 1) lines =
      (entryPointsFrom state index lines).map (· + 1) := by
  induction lines generalizing state index with
  | nil => rfl
  | cons line rest ih =>
    simp only [entryPointsFrom, entryStep_later, ih, List.map_append]

theorem entryPoints_nil_cons (lines : List Text) :
    entryPoints ([] :: lines) = (entryPoints lines).map (· + 1) := by
  have hstep : entryStep .outside 0 [] lines = (.outside, []) := by
    have hempty : externalAttribute.occursIn [] = false := by decide
    simp [entryStep, stepOutside, hempty]
  rw [entryPoints, entryPointsFrom, hstep]
  exact entryPointsFrom_later .outside 0 lines

theorem indexesWhere_nil_cons {condition : Text → Bool} (h : condition [] = false)
    (lines : List Text) :
    indexesWhere condition ([] :: lines) = (indexesWhere condition lines).map (· + 1) := by
  have hfirst : condition (lineAt ([] :: lines) 0) = false := h
  rw [indexesWhere, List.length_cons, List.range_succ_eq_map, List.filter_cons, hfirst,
    List.filter_map]
  rfl

/-- A window that reaches up to the first line may take in the new one, where nothing is handled. -/
theorem isHandled_nil_cons (lines : List Text) (index : Nat) :
    isHandled ([] :: lines) (index + 1) = isHandled lines index := by
  have hempty : callHandling.occursIn [] = false := by decide
  unfold isHandled window
  rcases Nat.lt_or_ge index 3 with hindex | hindex
  · rw [show index + 1 - 3 = 0 by omega, show index - 3 = 0 by omega,
      show index + 1 + 4 - 0 = index + 4 - 0 + 1 by omega, List.drop_zero, List.drop_zero,
      List.take_succ_cons, List.any_cons, hempty, Bool.false_or]
  · rw [show index + 1 - 3 = index - 3 + 1 by omega, List.drop_succ_cons,
      show index + 1 + 4 - (index - 3 + 1) = index + 4 - (index - 3) by omega]

theorem any_nil_cons {condition : Text → Bool} (h : condition [] = false) (lines : List Text) :
    ([] :: lines).any condition = lines.any condition := by
  rw [List.any_cons, h, Bool.false_or]

theorem filterMap_nil_cons {f : Text → Option Text} (h : f [] = none) (lines : List Text) :
    ([] :: lines).filterMap f = lines.filterMap f :=
  List.filterMap_cons_none h

theorem writesAfterCall_nil_cons (lines : List Text) :
    writesAfterCall false false ([] :: lines) = writesAfterCall false false lines := by
  have hempty : functionDeclaration.occursIn [] = false := by decide
  simp [writesAfterCall, hempty]

theorem trigger_newline_cons (code : Text) :
    ∀ d ∈ detectors, d.trigger ('\n' :: code) = d.trigger code := by
  have hwindow (lines : List Text) (index size : Nat) :
      window ([] :: lines) (index + 1) size = window lines index size := rfl
  have hline (lines : List Text) (index : Nat) :
      lineAt ([] :: lines) (index + 1) = lineAt lines index := rfl
  simp (disch := decide) only [detectors, List.forall_mem_cons, Trigger.when,
    Trigger.occurs, bare_newline_cons, Pattern.occursIn_newline_cons, codeLines_newline_cons,
    hasReentrancy, writesAfterCall_nil_cons, hasUncheckedCall, indexesWhere_nil_cons,
    entryPoints_nil_cons, List.any_map, Function.comp_def, isHandled_nil_cons, guardedBy, hwindow,
    hline, any_nil_cons, filterMap_nil_cons, hasFeltOverflow, lacksAccessControl,
    lacksZeroAddressCheck, dependsOnTimestamp, hasUnusedReturn, hasUnsafeConversion, lacksEvent,
    hasStorageCollision, hasUnvalidatedInput, lacksConstructorValidation, hasUncheckedIndex,
    hasUncheckedMath, true_and]
  exact List.forall_mem_nil _

end Catalog.Cairo

/-! ## Vyper -/

namespace Catalog.Vyper

open Source

theorem functionsAfter_append_nil (above lines : List Text) :
    functionsAfter (above ++ [[]]) lines = functionsAfter above lines := by
  have hempty : isDecorator [] = false := by decide
  induction lines generalizing above with
  | nil => rfl
  | cons line rest ih =>
    have hrest := ih (line :: above)
    rw [List.cons_append] at hrest
    rw [functionsAfter, functionsAfter, takeWhile_append_stop hempty, hrest]

theorem functions_newline_cons (code : Text) : functions ('\n' :: code) = functions code := by
  have hempty : defLine.matchStart? [] = none := by
    have hmatch : defLine.opens [] = false := by decide
    simpa [Pattern.opens] using hmatch
  rw [functions, hashless_newline_cons, lines_newline_cons, functionsAfter, hempty]
  exact functionsAfter_append_nil [] _

theorem declaredVersion?_newline_cons (code : Text) :
    declaredVersion? ('\n' :: code) = declaredVersion? code := by
  rw [declaredVersion?, Pattern.find?_newline_cons (by decide) (by decide),
    Option.map_map]
  rfl

theorem lineBefore_newline_cons (src : Text) (offset : Nat) :
    lineBefore ('\n' :: src) (offset + 1) = lineBefore src offset := by
  rw [lineBefore, List.take_succ_cons, List.reverse_cons, takeWhile_append_stop (by decide),
    lineBefore]

theorem isTested_newline_cons (src : Text) (m : Pattern.Match) :
    isTested ('\n' :: src) m.later = isTested src m := by
  have hflag (flag : Text) :
      (flagTest flag).occursIn ('\n' :: src) = (flagTest flag).occursIn src :=
    Pattern.occursIn_newline_cons rfl src
  simp only [isTested, Pattern.Match.later, lineBefore_newline_cons, hflag]

theorem hasUncheckedRawCall_newline_cons (code : Text) :
    hasUncheckedRawCall ('\n' :: code) = hasUncheckedRawCall code := by
  simp only [hasUncheckedRawCall, hashless_newline_cons]
  rw [Pattern.findAll_newline_cons (by decide) (by decide)]
  simp only [List.any_map, Function.comp_def, isTested_newline_cons]

theorem trigger_newline_cons (code : Text) :
    ∀ d ∈ detectors, d.trigger ('\n' :: code) = d.trigger code := by
  simp (disch := decide) only [detectors, List.forall_mem_cons, Trigger.when,
    Trigger.occursHashless, hashless_newline_cons, Pattern.occursIn_newline_cons, hasReentrancy,
    hasUnprotectedSelfDestruct, functions_newline_cons, hasUncheckedRawCall_newline_cons,
    hasVulnerableCompiler, hasFloatingVersion, declaredVersion?_newline_cons, true_and]
  exact List.forall_mem_nil _

end Catalog.Vyper

/-- No trigger notices an empty line on top. -/
theorem Catalog.trigger_newline_cons (dialect : Dialect) (code : Text) :
    ∀ d ∈ Catalog.of dialect, d.trigger ('\n' :: code) = d.trigger code := by
  cases dialect with
  | solidity => exact Solidity.trigger_newline_cons code
  | cairo => exact Cairo.trigger_newline_cons code
  | vyper => exact Vyper.trigger_newline_cons code

end ContractAudit
