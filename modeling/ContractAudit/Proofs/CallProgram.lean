import ContractAudit.Proofs.Acceptance

/-!
# An audit as a program of calls

What an audit asks of its collaborators, and in which order, cannot be told from its result. Here
the same audit is written as a program: a tree that at each node makes one call and goes on with
whatever comes back, be it an answer or a failure. A path through the tree is a possible course of
the audit, with any calls failing on the way, and a tree that is a leaf makes no call at all.

Run against the collaborators of an auditor, the program does what `Auditor.audit` does.
-/
namespace ContractAudit

/-- A call to a collaborator, by what comes back. A call that fails says so in its answer: an
extractor that stops early gives the names found before, with the reason. -/
inductive Call : Type → Type where
  | extractor (dialect : Dialect) (code : Text) : Call Extraction
  | trigger (d : Detector) (code : Text) : Call (Except Fault Bool)
  | locator (d : Detector) (code : Text) : Call (Except Fault (List Int))
  | matcher (d : Detector) (line : Text) : Call (Except Fault Bool)
  | enhancer (request : EnhancementRequest) : Call (Option EnhancementResponse)

inductive CallProgram (α : Type) : Type 1 where
  | done (result : α) : CallProgram α
  | call {β : Type} (c : Call β) (next : β → CallProgram α) : CallProgram α

namespace CallProgram

variable {α β : Type}

def bind (p : CallProgram α) (f : α → CallProgram β) : CallProgram β :=
  match p with
  | done x => f x
  | call c next => call c fun answer => (next answer).bind f

instance : Monad CallProgram where
  pure := done
  bind := bind

def ask (c : Call α) : CallProgram α :=
  call c done

def Always (P : α → Prop) : CallProgram α → Prop
  | done x => P x
  | call _ next => ∀ answer, (next answer).Always P

@[simp] theorem ask_bind_eq (c : Call α) (f : α → CallProgram β) : (ask c >>= f) = call c f := rfl

theorem always_bind {P : β → Prop} (p : CallProgram α) {f : α → CallProgram β}
    (hf : ∀ x, (f x).Always P) : (p >>= f).Always P := by
  induction p with
  | done x => exact hf x
  | call c next ih => exact fun answer => ih answer

/-! ## The program of an audit -/

section Analysis

variable (dialect : Dialect) (extracted : Bool) (code : Text)

def matchedLines (hashes : Bool) (d : Detector) :
    (number : Nat) → List Text → CallProgram (Except Fault (List Int))
  | _, [] => pure (.ok [])
  | number, line :: rest =>
    if Source.isCommentLine hashes line then matchedLines hashes d (number + 1) rest
    else do
      match ← ask (.matcher d line) with
      | .error fault => pure (.error fault)
      | .ok accepted =>
        let found ← matchedLines hashes d (number + 1) rest
        return found.map fun found => if accepted then (number : Int) :: found else found

def locate (d : Detector) : CallProgram (Except Fault (List Int)) :=
  if d.locate.isSome then ask (.locator d code)
  else matchedLines (Analysis.hashComments dialect) d 1 code.lines

def evaluate (d : Detector) : CallProgram (Except Fault (Option (List Int))) := do
  match ← ask (.trigger d code) with
  | .error fault => return .error fault
  | .ok false => return .ok none
  | .ok true => return (← locate dialect code d).map some

def findingsOf (d : Detector) : CallProgram (List Finding) := do
  match ← evaluate dialect code d with
  | .ok (some located) => return Analysis.instances d located code.lines extracted
  | _ => return []

def rawFindings : List Detector → CallProgram (List Finding)
  | [] => pure []
  | d :: rest => do
    let first ← findingsOf dialect extracted code d
    return first ++ (← rawFindings rest)

end Analysis

def staticFindings (catalog : Dialect → List Detector) (t : Task) : CallProgram (List Finding) :=
  if t.facets.contains .static then do
    let extraction ← ask (.extractor t.dialect t.code.toList)
    return Finding.deduplicate
      (← rawFindings t.dialect extraction.failure.isNone t.code.toList (catalog t.dialect))
  else pure []

def enhance : (budget : Nat) → List Finding → CallProgram (List Finding)
  | _, [] => pure []
  | 0, findings => pure findings
  | budget + 1, f :: rest =>
    if Enhancement.isSerious f then do
      let answer ← ask (.enhancer (.ofFinding f))
      return Enhancement.improve f answer :: (← enhance budget rest)
    else do return f :: (← enhance (budget + 1) rest)

end CallProgram

namespace Auditor

open CallProgram in
def performProgram (a : Auditor) (t : Task) : CallProgram (Except AuditError Report) := do
  let found ← CallProgram.staticFindings a.catalog t
  match a.budget t found with
  | .error e => return .error e
  | .ok budget =>
    let kept := Filter.apply t.threshold (← enhance budget found)
    match a.options.wanted with
    | none => return .error .unusableThreshold
    | some wanted => return .ok (assemble t wanted kept)

def program (a : Auditor) (r : Request) : CallProgram (Except AuditError Report) :=
  match r.accept with
  | .error e => pure (.error (.request e))
  | .ok t => a.performProgram t

end Auditor

/-! ## Running a program -/

def LineMatcher.test (matcher : LineMatcher) (line : Text) : Except Fault Bool :=
  match matcher.fault? line with
  | some fault => .error fault
  | none => .ok (matcher.accepts line)

/-- What the collaborators of an auditor answer; the next call to the enhancer has number `n`. -/
def Auditor.answer (a : Auditor) (n : Nat) {α : Type} : Call α → α
  | .extractor dialect code => (a.extractor dialect).run code
  | .trigger d code => d.trigger code
  | .locator d code =>
    match d.locate with
    | some locator => locator code
    | none => .ok []
  | .matcher d line => d.matcher.test line
  | .enhancer request => a.enhancer.bind fun enhancer => enhancer n request

def Call.requests {α : Type} : Call α → List EnhancementRequest
  | enhancer request => [request]
  | _ => []

namespace CallProgram

variable {α β : Type}

def run (a : Auditor) : (n : Nat) → CallProgram α → List EnhancementRequest × α
  | _, done x => ([], x)
  | n, call c next =>
    let rest := (next (a.answer n c)).run a (n + c.requests.length)
    (c.requests ++ rest.1, rest.2)

variable (a : Auditor) (n : Nat)

@[simp] theorem run_pure (x : α) : run a n (pure x) = ([], x) := rfl

theorem run_bind (p : CallProgram α) (f : α → CallProgram β) :
    (p >>= f).run a n =
      ((p.run a n).1 ++ ((f (p.run a n).2).run a (n + (p.run a n).1.length)).1,
        ((f (p.run a n).2).run a (n + (p.run a n).1.length)).2) := by
  induction p generalizing n with
  | done x => rfl
  | call c next ih =>
    have hnext := ih (a.answer n c) (n + c.requests.length)
    change (c.requests ++ ((next (a.answer n c) >>= f).run a (n + c.requests.length)).1,
      ((next (a.answer n c) >>= f).run a (n + c.requests.length)).2) = _
    rw [hnext]
    simp [run, Nat.add_assoc]

theorem run_bind_of_silent {p : CallProgram α} {x : α} (hp : p.run a n = ([], x))
    (f : α → CallProgram β) : (p >>= f).run a n = (f x).run a n := by
  simp [run_bind, hp]

theorem run_ask_bind_of_silent {c : Call α} (hc : c.requests = []) (f : α → CallProgram β) :
    (ask c >>= f).run a n = (f (a.answer n c)).run a n := by
  simp [run, hc]

theorem Always.run {P : α → Prop} {p : CallProgram α} (hp : p.Always P) : P (p.run a n).2 := by
  induction p generalizing n with
  | done x => exact hp
  | call c next ih => exact ih _ _ (hp _)

theorem run_matchedLines (hashes : Bool) (d : Detector) (number : Nat) (lines : List Text) :
    (matchedLines hashes d number lines).run a n =
      ([], match Analysis.matcherFault? hashes d.matcher lines with
        | some fault => .error fault
        | none => .ok (Analysis.matchedLines hashes d.matcher number lines)) := by
  induction lines generalizing number with
  | nil => rfl
  | cons line rest ih =>
    by_cases hcomment : Source.isCommentLine hashes line
    · simp [matchedLines, ih, Analysis.matcherFault?, Analysis.matchedLines, hcomment]
    · rw [matchedLines, if_neg hcomment, run_ask_bind_of_silent a n rfl]
      simp only [Auditor.answer, LineMatcher.test]
      cases hfault : d.matcher.fault? line with
      | some fault => simp [Analysis.matcherFault?, hcomment, hfault]
      | none =>
        simp only [run_bind_of_silent a n (ih (number + 1)), run_pure]
        have hrest : Analysis.matcherFault? hashes d.matcher (line :: rest) =
            Analysis.matcherFault? hashes d.matcher rest := by
          simp [Analysis.matcherFault?, hcomment, hfault]
        rw [hrest]
        cases Analysis.matcherFault? hashes d.matcher rest with
        | some fault => rfl
        | none =>
          cases haccepts : d.matcher.accepts line <;>
            simp [Except.map, Analysis.matchedLines, hcomment, haccepts]

theorem run_locate (dialect : Dialect) (code : Text) (d : Detector) :
    (locate dialect code d).run a n = ([], Analysis.locate dialect d code) := by
  unfold locate Analysis.locate
  cases hlocate : d.locate with
  | none => exact run_matchedLines a n _ d 1 code.lines
  | some locator => simp [ask, run, Call.requests, Auditor.answer, hlocate]

theorem run_evaluate (dialect : Dialect) (code : Text) (d : Detector) :
    (evaluate dialect code d).run a n = ([], Analysis.evaluate dialect d code) := by
  unfold evaluate Analysis.evaluate
  rw [run_ask_bind_of_silent a n rfl]
  simp only [Auditor.answer]
  rcases d.trigger code with fault | _ | _
  · rfl
  · rfl
  · rw [run_bind_of_silent a n (run_locate a n dialect code d)]
    cases Analysis.locate dialect d code <;> rfl

theorem run_findingsOf (dialect : Dialect) (extracted : Bool) (code : Text) (d : Detector) :
    (findingsOf dialect extracted code d).run a n =
      ([], Analysis.findingsOf dialect extracted code d) := by
  unfold findingsOf Analysis.findingsOf
  rw [run_bind_of_silent a n (run_evaluate a n dialect code d)]
  rcases Analysis.evaluate dialect d code with fault | _ | located <;> rfl

theorem run_rawFindings (dialect : Dialect) (extracted : Bool) (code : Text)
    (catalog : List Detector) :
    (rawFindings dialect extracted code catalog).run a n =
      ([], Analysis.rawFindings catalog dialect extracted code) := by
  induction catalog with
  | nil => rfl
  | cons d rest ih =>
    unfold rawFindings
    rw [run_bind_of_silent a n (run_findingsOf a n dialect extracted code d),
      run_bind_of_silent a n ih]
    rfl

theorem run_staticFindings (t : Task) :
    (staticFindings a.catalog t).run a n = ([], a.staticFindings t) := by
  unfold staticFindings Auditor.staticFindings
  by_cases hstatic : t.facets.contains .static
  · have hextracted : ((a.extractor t.dialect).extract t.code.toList).isExtracted =
        ((a.extractor t.dialect).run t.code.toList).failure.isNone := by
      simp [Structure.isExtracted, Extractor.extract]
    simp only [hstatic, if_true]
    rw [run_ask_bind_of_silent a n rfl, run_bind_of_silent a n (run_rawFindings a n _ _ _ _)]
    simp [Auditor.answer, Analysis.run, hextracted]
  · rw [if_neg hstatic, if_neg hstatic]
    rfl

/-- The enhancer is asked about one serious finding after the other until the budget is used up. -/
theorem run_enhance {enhancer : Enhancer} (he : a.enhancer = some enhancer) (budget : Nat)
    (findings : List Finding) :
    (enhance budget findings).run a n =
      (Enhancement.calls budget findings, Enhancement.run enhancer n budget findings) := by
  induction findings generalizing n budget with
  | nil => simp [enhance, Enhancement.calls, Enhancement.run]
  | cons f rest ih =>
    cases budget with
    | zero => simp [enhance, Enhancement.calls, Enhancement.run]
    | succ budget =>
      by_cases hf : Enhancement.isSerious f
      · simp only [enhance, hf, if_true, Enhancement.run]
        simp [run, run_bind, ih, Call.requests, Auditor.answer, he, Enhancement.calls, hf]
      · simp only [enhance, hf, Enhancement.run]
        simp [run_bind, ih, Enhancement.calls, hf]

theorem run_enhance_zero (findings : List Finding) :
    (enhance 0 findings).run a n = ([], findings) := by
  cases findings <;> rfl

end CallProgram

namespace Auditor

theorem run_enhance_of_budget {a : Auditor} {t : Task} {findings : List Finding} {budget : Nat}
    (hbudget : a.budget t findings = .ok budget) (n : Nat) :
    (CallProgram.enhance budget findings).run a n =
      (Enhancement.calls budget findings, a.enhanced t n budget findings) := by
  unfold Auditor.budget at hbudget
  unfold enhanced
  cases hactive : a.activeEnhancer t with
  | none =>
    obtain rfl : 0 = budget := by simpa [hactive] using hbudget
    simp [CallProgram.run_enhance_zero, Enhancement.calls]
  | some enhancer =>
    have he : a.enhancer = some enhancer := by
      unfold activeEnhancer at hactive
      split at hactive
      · exact hactive
      · cases hactive
    exact CallProgram.run_enhance a n he budget findings

theorem run_performProgram (a : Auditor) (n : Nat) (t : Task) :
    (a.performProgram t).run a n = ((a.perform n t).calls, (a.perform n t).report) := by
  unfold performProgram
  rw [CallProgram.run_bind_of_silent a n (CallProgram.run_staticFindings a n t)]
  cases hbudget : a.budget t (a.staticFindings t) with
  | error e => simp [perform, hbudget]
  | ok budget =>
    simp only [CallProgram.run_bind, run_enhance_of_budget hbudget]
    cases hwanted : a.options.wanted <;> simp [perform, hbudget, hwanted]

/-- The program of an audit, run against the auditor, is the audit. -/
theorem run_program (a : Auditor) (n : Nat) (r : Request) :
    (a.program r).run a n = ((a.audit n r).calls, (a.audit n r).report) := by
  unfold program audit
  cases r.accept with
  | error e => rfl
  | ok t => exact a.run_performProgram n t

end Auditor

end ContractAudit
