import ContractAudit.Proofs.FirstOccurrences
import ContractAudit.Structure.Registry

/-!
# Outlines of one text above another

A newline ends a line whatever stands around it: a carriage return before it belongs to it, and one
after it does not. So the lines of a text of whole lines and of a text below it are the lines of
both together. Each kind of name is collected along the lines without a look at the other kinds, and
what a run collects is the different names that its lines declare. The outline of both texts is then
the outline of the upper one with the names that only the lower one declares behind it.
-/
namespace ContractAudit

/-! ## Lines -/

namespace Text

theorem exists_pairBreaks_append (t : Text) :
    ∃ above, ∀ below, pairBreaks (t ++ '\n' :: below) = above ++ '\n' :: pairBreaks below := by
  fun_induction pairBreaks t with
  | case1 => exact ⟨[], fun below => by simp [pairBreaks]⟩
  | case2 rest ih =>
    obtain ⟨above, habove⟩ := ih
    exact ⟨'\n' :: above, fun below => by simp [pairBreaks, habove]⟩
  | case3 c rest hpair ih =>
    obtain ⟨above, habove⟩ := ih
    by_cases hreturn : c = '\r' ∧ rest = []
    · -- The newline completes a pair, which breaks one line.
      obtain ⟨rfl, rfl⟩ := hreturn
      exact ⟨[], fun below => by simp [pairBreaks]⟩
    · refine ⟨c :: above, fun below => ?_⟩
      rw [List.cons_append, List.cons_append, ← habove]
      refine pairBreaks.eq_3 c _ fun below' hc hrest => ?_
      cases rest with
      | nil => exact hreturn ⟨hc, rfl⟩
      | cons d rest => exact hpair rest hc (by rw [(List.cons.inj hrest).1])

theorem breakLinesAfter_append (current above below : Text) :
    breakLinesAfter current (above ++ '\n' :: below) =
      breakLinesAfter current (above ++ ['\n']) ++ breakLinesAfter [] below := by
  induction above generalizing current with
  | nil =>
    have hnewline : isLineBreak '\n' = true := by decide
    simp [breakLinesAfter, hnewline]
  | cons c above ih =>
    rw [List.cons_append, List.cons_append, breakLinesAfter, breakLinesAfter]
    split
    · rw [ih, List.cons_append]
    · exact ih _

theorem breakLines_append {a : Text} (ha : a = [] ∨ a.getLast? = some '\n') (b : Text) :
    (a ++ b).breakLines = a.breakLines ++ b.breakLines := by
  rcases ha with rfl | ha
  · rfl
  obtain ⟨t, rfl⟩ := List.getLast?_eq_some_iff.mp ha
  obtain ⟨above, habove⟩ := exists_pairBreaks_append t
  have hupper : pairBreaks (t ++ ['\n']) = above ++ ['\n'] := habove []
  rw [List.append_assoc, List.singleton_append, breakLines, breakLines, breakLines, habove, hupper,
    breakLinesAfter_append]

end Text

namespace Structure

/-! ## Names collected along lines -/

def collect (declares : Text → Option String) (lines : List Text) : List String :=
  lines.foldl (fun names line => addName? names (declares line)) []

theorem addName_distinct {name : String} (hname : name.isEmpty = false) (known : List String) :
    addName (distinct known) name = distinct (known ++ [name]) := by
  rw [distinct_append, distinct_eq_self (List.nodup_singleton name), addName]
  by_cases hknown : name ∈ known
  · simp [mem_distinct_iff, hknown]
  · simp [mem_distinct_iff, hknown, hname]

theorem addName?_distinct (xs : List String) (name : Option String) :
    addName? (distinct (xs.filter (!·.isEmpty))) name =
      distinct ((xs ++ name.toList).filter (!·.isEmpty)) := by
  cases name with
  | none => simp [addName?]
  | some name =>
    rw [Option.toList_some, List.filter_append, addName?]
    cases hname : name.isEmpty with
    | true => simp [addName, hname]
    | false =>
      have hfilter : [name].filter (!·.isEmpty) = [name] := by simp [hname]
      rw [addName_distinct hname, hfilter]

/-- What is collected are the different names declared, those without a text left out. -/
theorem collect_eq_distinct (declares : Text → Option String) (lines : List Text) :
    collect declares lines = distinct ((lines.filterMap declares).filter (!·.isEmpty)) := by
  induction lines using List.reverseRecOn with
  | nil => rfl
  | append_singleton lines line ih =>
    have hlast : [line].filterMap declares = (declares line).toList := by
      cases h : declares line <;> simp [h]
    rw [collect, List.foldl_append, List.foldl_cons, List.foldl_nil, ← collect, ih,
      addName?_distinct, List.filterMap_append, hlast]

theorem collect_append (declares : Text → Option String) (above below : List Text) :
    collect declares (above ++ below) =
      collect declares above ++
        (collect declares below).filter (· ∉ collect declares above) := by
  simp only [collect_eq_distinct, List.filterMap_append, List.filter_append, distinct_append,
    mem_distinct_iff]

def pickName (known found : String) : String :=
  if known == unknownName && !found.isEmpty then found else known

theorem nameIfUnknown_eq (o : Outline) (name : String) :
    o.nameIfUnknown name = { o with name := pickName o.name name } := by
  unfold Outline.nameIfUnknown pickName
  split <;> rfl

def firstName (gives : Text → String) (lines : List Text) : String :=
  lines.foldl (fun known line => pickName known (gives line)) unknownName

theorem firstName_append (gives : Text → String) (above below : List Text) :
    firstName gives (above ++ below) =
      if firstName gives above = unknownName then firstName gives below
      else firstName gives above := by
  have hkept {known : String} (h : known ≠ unknownName) (lines : List Text) :
      lines.foldl (fun known line => pickName known (gives line)) known = known := by
    induction lines with
    | nil => rfl
    | cons line lines ih =>
      have hpick : pickName known (gives line) = known := by simp [pickName, h]
      rw [List.foldl_cons, hpick, ih]
  rw [firstName, List.foldl_append, ← firstName]
  split
  · rename_i hunknown
    rw [hunknown, ← firstName]
  · rename_i hknown
    exact hkept hknown below

/-! ## Vyper -/

namespace Vyper

def Declaration.function? : Declaration → Option String
  | function name => some name
  | _ => none

def Declaration.event? : Declaration → Option String
  | event name => some name
  | _ => none

def Declaration.storage? : Declaration → Option String
  | storage name => some name
  | _ => none

theorem addDeclaration_eq (o : Outline) (declaration : Declaration) :
    addDeclaration o declaration =
      { o with
        functions := addName? o.functions declaration.function?
        stateVariables := addName? o.stateVariables declaration.storage?
        events := addName? o.events declaration.event? } := by
  cases declaration <;> rfl

theorem outline_eq (code : Text) :
    outline code =
      { name := firstName (fun line => (nameIn? title 1 line).getD "") code.breakLines
        functions := collect (fun line => (declarationIn line).function?) code.breakLines
        stateVariables := collect (fun line => (declarationIn line).storage?) code.breakLines
        events := collect (fun line => (declarationIn line).event?) code.breakLines } := by
  unfold outline
  induction code.breakLines using List.reverseRecOn with
  | nil => rfl
  | append_singleton lines line ih =>
    simp only [List.foldl_append, List.foldl_cons, List.foldl_nil, ih, addLine,
      nameIfUnknown_eq, addDeclaration_eq, firstName, collect]

end Vyper

/-! ## Cairo -/

namespace Cairo

def moduleName (line : Text) : String :=
  (nameIn? moduleDeclaration 1 line).getD ""

theorem outlineAfter_fields (o : Outline) (pending : Bool) (lines : List Text) :
    (outlineAfter o pending lines).name =
        lines.foldl (fun known line => pickName known (moduleName line)) o.name ∧
      (outlineAfter o pending lines).functions =
        lines.foldl (fun names line => addName? names (nameIn? functionDeclaration 1 line))
          o.functions ∧
      (outlineAfter o pending lines).stateVariables =
        lines.foldl (fun names line => addName? names (nameIn? storageDeclaration 1 line))
          o.stateVariables := by
  induction lines generalizing o pending with
  | nil => exact ⟨rfl, rfl, rfl⟩
  | cons line lines ih =>
    have hname : (addLine o pending line).name = pickName o.name (moduleName line) := by
      simp only [addLine, nameIfUnknown_eq, moduleName]
    rw [List.foldl_cons, ← hname]
    exact ih (addLine o pending line) (awaitsType pending line)

end Cairo

/-! ## Every list of names -/

def WellNamed (names : List String) : Prop :=
  names.Nodup ∧ "" ∉ names

theorem wellNamed_addName {names : List String} (h : WellNamed names) (name : String) :
    WellNamed (addName names name) := by
  unfold addName
  split
  · exact h
  · rename_i hnew
    obtain ⟨hempty, hknown⟩ : name ≠ "" ∧ name ∉ names := by simpa using hnew
    refine ⟨List.nodup_append.mpr ⟨h.1, List.nodup_singleton name, ?_⟩, ?_⟩
    · rintro known hmem _ hlast rfl
      rw [List.mem_singleton.mp hlast] at hmem
      exact hknown hmem
    · rw [List.mem_append, List.mem_singleton]
      rintro (hmem | heq)
      · exact h.2 hmem
      · exact hempty heq.symm

theorem wellNamed_addName? {names : List String} (h : WellNamed names) (name : Option String) :
    WellNamed (addName? names name) := by
  cases name with
  | none => exact h
  | some name => exact wellNamed_addName h name

end Structure

structure Outline.WellNamed (o : Outline) : Prop where
  functions : Structure.WellNamed o.functions
  stateVariables : Structure.WellNamed o.stateVariables
  modifiers : Structure.WellNamed o.modifiers
  events : Structure.WellNamed o.events

namespace Structure

theorem wellNamed_empty : Outline.WellNamed {} := by
  have hnil : WellNamed [] := ⟨List.nodup_nil, List.not_mem_nil⟩
  exact ⟨hnil, hnil, hnil, hnil⟩

theorem Vyper.wellNamed_addLine {o : Outline} (h : o.WellNamed) (line : Text) :
    (Vyper.addLine o line).WellNamed := by
  rw [Vyper.addLine, nameIfUnknown_eq, Vyper.addDeclaration_eq]
  exact ⟨wellNamed_addName? h.functions _, wellNamed_addName? h.stateVariables _, h.modifiers,
    wellNamed_addName? h.events _⟩

theorem Cairo.wellNamed_addLine {o : Outline} (h : o.WellNamed) (pending : Bool) (line : Text) :
    (Cairo.addLine o pending line).WellNamed := by
  rw [Cairo.addLine, nameIfUnknown_eq]
  exact ⟨wellNamed_addName? h.functions _, wellNamed_addName? h.stateVariables _, h.modifiers,
    wellNamed_addName? h.events _⟩

theorem Cairo.wellNamed_outlineAfter {o : Outline} (h : o.WellNamed) (pending : Bool)
    (lines : List Text) : (Cairo.outlineAfter o pending lines).WellNamed := by
  induction lines generalizing o pending with
  | nil => exact h
  | cons line lines ih => exact ih (Cairo.wellNamed_addLine h pending line) _

theorem Solidity.wellNamed_addDeclaration {o : Outline} (h : o.WellNamed)
    (declaration : Solidity.Declaration) : (Solidity.addDeclaration o declaration).WellNamed := by
  unfold Solidity.addDeclaration
  cases declaration.kind with
  | contract =>
    simp only [nameIfUnknown_eq]
    exact ⟨h.functions, h.stateVariables, h.modifiers, h.events⟩
  | function => exact { h with functions := wellNamed_addName h.functions _ }
  | stateVariable => exact { h with stateVariables := wellNamed_addName h.stateVariables _ }
  | modifier => exact { h with modifiers := wellNamed_addName h.modifiers _ }
  | event => exact { h with events := wellNamed_addName h.events _ }

/-- No parser can make a tree give a name twice or without a text. -/
theorem Solidity.wellNamed_extraction (parse : Solidity.Parser) (code : Text) :
    (Solidity.extraction parse code).outline.WellNamed := by
  unfold Solidity.extraction
  split
  · exact wellNamed_empty
  · exact List.foldlRecOn _ _ wellNamed_empty fun _ h declaration _ =>
      Solidity.wellNamed_addDeclaration h declaration

section

variable (parse : Solidity.Parser)

def outlineOf (d : Dialect) (code : Text) : Outline :=
  ((extractorOf parse d).extract code).outline

theorem wellNamed_outlineOf (d : Dialect) (code : Text) : (outlineOf parse d code).WellNamed := by
  cases d with
  | solidity => exact Solidity.wellNamed_extraction parse code
  | cairo => exact Cairo.wellNamed_outlineAfter wellNamed_empty false _
  | vyper =>
    exact List.foldlRecOn _ _ wellNamed_empty fun _ h line _ => Vyper.wellNamed_addLine h line

/-! ## One text above another -/

theorem wellNamed_of_mem {o : Outline} (h : o.WellNamed) :
    ∀ names ∈ [o.functions, o.stateVariables, o.modifiers, o.events],
      names.Nodup ∧ "" ∉ names := by
  simp only [List.forall_mem_cons]
  exact ⟨h.functions, h.stateVariables, h.modifiers, h.events, by simp⟩

theorem cairo_outlineOf (code : Text) :
    (outlineOf parse .cairo code).name = firstName Cairo.moduleName code.breakLines ∧
      (outlineOf parse .cairo code).functions =
        collect (nameIn? Cairo.functionDeclaration 1) code.breakLines ∧
      (outlineOf parse .cairo code).stateVariables =
        collect (nameIn? Cairo.storageDeclaration 1) code.breakLines :=
  Cairo.outlineAfter_fields {} false code.breakLines

theorem vyper_outlineOf (code : Text) : outlineOf parse .vyper code = Vyper.outline code :=
  rfl

/-- Below a text of whole lines, a Vyper or Cairo text adds to each list the names that are not
there yet, and gives the name if there is none. The events of Cairo are left out, since an attribute
at the end of one text may wait for its type in the other. No list of any dialect repeats a name or
holds one without a text, whatever trees a parser makes of Solidity. -/
theorem outlines_append {a : Text} (ha : a = [] ∨ a.getLast? = some '\n') (b : Text) :
    (∀ d ∈ [Dialect.vyper, Dialect.cairo],
      let o := outlineOf parse d
      (o (a ++ b)).functions =
        (o a).functions ++ (o b).functions.filter (· ∉ (o a).functions) ∧
      (o (a ++ b)).stateVariables =
        (o a).stateVariables ++ (o b).stateVariables.filter (· ∉ (o a).stateVariables) ∧
      (o (a ++ b)).name = if (o a).name = unknownName then (o b).name else (o a).name) ∧
    (outlineOf parse .vyper (a ++ b)).events = (outlineOf parse .vyper a).events ++
      (outlineOf parse .vyper b).events.filter (· ∉ (outlineOf parse .vyper a).events) ∧
    ∀ d code, let o := outlineOf parse d code
      ∀ names ∈ [o.functions, o.stateVariables, o.modifiers, o.events],
        names.Nodup ∧ "" ∉ names := by
  have hlines := Text.breakLines_append ha b
  refine ⟨?_, ?_, fun d code => wellNamed_of_mem (wellNamed_outlineOf parse d code)⟩
  · simp only [List.forall_mem_cons]
    refine ⟨?_, ?_, by simp⟩
    · simp only [vyper_outlineOf, Vyper.outline_eq, hlines]
      exact ⟨collect_append .., collect_append .., firstName_append ..⟩
    · simp only [cairo_outlineOf, hlines]
      exact ⟨collect_append .., collect_append .., firstName_append ..⟩
  · simp only [vyper_outlineOf, Vyper.outline_eq, hlines]
    exact collect_append ..

/-- A carriage return below the seam breaks a line of its own. The parser of Solidity, which is not
asked for, may raise whatever it likes. -/
theorem outlines_append_carriage_return :
    let parse : Solidity.Parser := fun _ => .error "no parser"
    let a := "owner: address\r\n".toList
    let b := "\r# @title Vault\x0cowner: uint256\x0cdef pay(to: address):".toList
    a.getLast? = some '\n' ∧ (outlineOf parse .vyper (a ++ b)).functions = ["pay"] ∧
      (outlineOf parse .vyper (a ++ b)).stateVariables = ["owner"] ∧
      (outlineOf parse .vyper (a ++ b)).name = "Vault" := by
  intro parse a b
  have ha : a.getLast? = some '\n' := by decide
  obtain ⟨hfunctions, hvariables, hname⟩ :=
    (outlines_append parse (.inr ha) b).1 .vyper List.mem_cons_self
  rw [hfunctions, hvariables, hname]
  decide +kernel

end

end Structure

end ContractAudit
