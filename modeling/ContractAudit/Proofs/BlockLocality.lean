import ContractAudit.Proofs.CatalogComposition
import ContractAudit.Proofs.CommentedLines
import Mathlib.Data.List.Infix

/-!
# Sources one below the other

If no block comment runs on past the end of a source, and every function that starts in it ends in
it, then another source below it changes nothing about its functions, and nothing passes down to the
functions of the other source but their line numbers. Both passes over the comments can be cut at a
newline, and a block that has ended does not look at the lines after it.
-/
namespace ContractAudit

theorem Text.lines_append_newline_cons (s t : Text) :
    Text.lines (s ++ '\n' :: t) = s.lines ++ t.lines := by
  induction s with
  | nil => exact Source.lines_newline_cons t
  | cons c s ih =>
    by_cases hc : c = '\n'
    · rw [hc, List.cons_append, Source.lines_newline_cons, ih, Source.lines_newline_cons,
        List.cons_append]
    · obtain ⟨line, more, hs, hcs⟩ := Source.exists_lines_cons hc s
      obtain ⟨line', more', hst, hcst⟩ := Source.exists_lines_cons hc (s ++ '\n' :: t)
      rw [ih, hs, List.cons_append, List.cons.injEq] at hst
      rw [List.cons_append, hcst, hcs, ← hst.1, ← hst.2, List.cons_append]

namespace Source

/-! ## Comments -/

/-- Is a block comment open at the end of a text? `inside` tells whether one is open before it. As
in the first pass, it does not matter whether a mark stands in a literal or a line comment. -/
def endsInComment : (inside : Bool) → Text → Bool
  | inside, [] => inside
  | false, '/' :: '*' :: rest => endsInComment true rest
  | true, '*' :: '/' :: rest => endsInComment false rest
  | inside, _ :: rest => endsInComment inside rest

theorem isMark_eq_false_iff {a b c : Char} {rest : Text} :
    (c == a && rest.head? == some b) = false ↔ ∀ more, c = a → rest = b :: more → False := by
  rw [Bool.eq_false_iff, ne_eq, Bool.and_eq_true, beq_iff_eq, beq_iff_eq, List.head?_eq_some_iff]
  constructor
  · intro h more hc hmore
    exact h ⟨hc, more, hmore⟩
  · rintro h ⟨hc, more, hmore⟩
    exact h more hc hmore

theorem closesBlock_cons (c : Char) (rest : Text) :
    closesBlock (c :: rest) = (c == '*' && rest.head? == some '/' || closesBlock rest) := by
  cases hmark : c == '*' && rest.head? == some '/' with
  | true =>
    simp only [Bool.and_eq_true, beq_iff_eq, List.head?_eq_some_iff] at hmark
    obtain ⟨rfl, more, rfl⟩ := hmark
    rfl
  | false =>
    rw [closesBlock, Bool.false_or]
    exact isMark_eq_false_iff.mp hmark

theorem closesBlock_append_newline {t : Text} (h : closesBlock t = true) (rest : Text) :
    closesBlock (t ++ '\n' :: rest) = true := by
  induction t with
  | nil => simp [closesBlock] at h
  | cons c t ih =>
    rw [List.cons_append, closesBlock_cons, head?_append_newline (by decide)]
    rw [closesBlock_cons] at h
    rcases Bool.or_eq_true_iff.mp h with h | h
    · rw [h, Bool.true_or]
    · rw [ih h, Bool.or_true]

theorem closesBlock_of_endsInComment {inside : Bool} {t : Text} (hinside : inside = true)
    (h : endsInComment inside t = false) : closesBlock t = true := by
  fun_induction endsInComment inside t with
  | case1 inside => simp [hinside] at h
  | case2 rest ih => simp at hinside
  | case3 rest ih => rfl
  | case4 inside c rest _ _ ih => rw [closesBlock_cons, ih hinside h, Bool.or_true]

def BlockScan.ofInside : Bool → BlockScan
  | true => .comment
  | false => .code

theorem dropBlockComments_append_newline {inside : Bool} {left : Text}
    (h : endsInComment inside left = false) (rest : Text) :
    dropBlockComments (.ofInside inside) (left ++ '\n' :: rest) =
      dropBlockComments (.ofInside inside) left ++ '\n' :: dropBlockComments .code rest := by
  fun_induction endsInComment inside left with
  | case1 inside =>
    subst h
    simp [BlockScan.ofInside, dropBlockComments, opensBlock]
  | case2 more ih =>
    have hopens (t : Text) (ht : closesBlock t = true) :
        dropBlockComments .code ('/' :: '*' :: t) = dropBlockComments .comment t := by
      simp [dropBlockComments, opensBlock, ht]
    have hcloses := closesBlock_of_endsInComment rfl h
    simp only [BlockScan.ofInside, List.cons_append] at ih ⊢
    rw [hopens _ hcloses, hopens _ (closesBlock_append_newline hcloses rest), ih h]
  | case3 more ih =>
    have hcloses (t : Text) :
        dropBlockComments .comment ('*' :: '/' :: t) = dropBlockComments .code t := by
      simp [dropBlockComments]
    simp only [BlockScan.ofInside, List.cons_append] at ih ⊢
    rw [hcloses, hcloses, ih h]
  | case4 inside c more hopen hclose ih =>
    cases inside with
    | false =>
      have hmark : (c == '/' && more.head? == some '*') = false :=
        isMark_eq_false_iff.mpr fun t => hopen t rfl
      have hcode : opensBlock c more = false := by rw [opensBlock, hmark, Bool.false_and]
      have hcode' : opensBlock c (more ++ '\n' :: rest) = false := by
        rw [opensBlock, head?_append_newline (by decide), hmark, Bool.false_and]
      simp only [BlockScan.ofInside, List.cons_append] at ih ⊢
      rw [dropBlockComments_code_cons hcode, dropBlockComments_code_cons hcode', ih h,
        List.cons_append]
    | true =>
      have hmark : (c == '*' && more.head? == some '/') = false :=
        isMark_eq_false_iff.mpr fun t => hclose t rfl
      simp only [BlockScan.ofInside, List.cons_append] at ih ⊢
      rw [dropBlockComments, dropBlockComments, head?_append_newline (by decide), hmark, ih h]
      split <;> rfl

theorem bare_append_newline {left : Text} (h : endsInComment false left = false) (rest : Text) :
    bare (left ++ '\n' :: rest) = bare left ++ '\n' :: bare rest := by
  have hblocks := dropBlockComments_append_newline h rest
  simp only [BlockScan.ofInside] at hblocks
  rw [bare, hblocks, dropLineComments_append_newline (s := .code) trivial]
  rfl

/-! ## Blocks -/

/-- Lines from a header on make up a whole block: no brace is opened on them and the last of them
has a semicolon, or one is opened and at least as many are closed. -/
def EndsBlock (span : List Text) : Prop :=
  (∀ line ∈ span, '{' ∉ line) ∧ ';' ∈ span.getLast?.getD [] ∨
    (∃ line ∈ span, '{' ∈ line) ∧ span.flatten.count '{' ≤ span.flatten.count '}'

instance (span : List Text) : Decidable (EndsBlock span) :=
  inferInstanceAs (Decidable (_ ∨ _))

def EndsAfter (opened : Bool) (depth : Int) (span : List Text) : Prop :=
  if opened = true ∨ ∃ line ∈ span, '{' ∈ line then depth + braceBalance span.flatten ≤ 0
  else ';' ∈ span.getLast?.getD []

theorem endsAfter_of_endsBlock {span : List Text} (h : EndsBlock span) :
    span ≠ [] ∧ EndsAfter false 0 span := by
  rcases h with ⟨hclosed, hsemicolon⟩ | ⟨hopen, hbalance⟩
  · refine ⟨by rintro rfl; simp at hsemicolon, ?_⟩
    have hno : ¬ (false = true ∨ ∃ line ∈ span, '{' ∈ line) := by
      rintro (h | ⟨line, hline, hbrace⟩)
      · simp at h
      · exact hclosed line hline hbrace
    rw [EndsAfter, if_neg hno]
    exact hsemicolon
  · refine ⟨by rintro rfl; simp at hopen, ?_⟩
    rw [EndsAfter, if_pos (.inr hopen), braceBalance]
    omega

theorem endsAfter_singleton {opened : Bool} {depth : Int} {line : Text} :
    EndsAfter opened depth [line] ↔
      endsBlock (opened || line.contains '{') (depth + braceBalance line) line = true := by
  by_cases hopen : opened = true ∨ '{' ∈ line
  · simp [EndsAfter, endsBlock, hopen]
  · simp [EndsAfter, endsBlock, hopen]

theorem braceBalance_append (s t : Text) :
    braceBalance (s ++ t) = braceBalance s + braceBalance t := by
  simp only [braceBalance, List.count_append]
  omega

theorem endsAfter_cons {opened : Bool} {depth : Int} {line : Text} {more : List Text}
    (hmore : more ≠ []) :
    EndsAfter opened depth (line :: more) ↔
      EndsAfter (opened || line.contains '{') (depth + braceBalance line) more := by
  have hopen : (opened = true ∨ ∃ l ∈ line :: more, '{' ∈ l) ↔
      ((opened || line.contains '{') = true ∨ ∃ l ∈ more, '{' ∈ l) := by
    simp [or_assoc]
  have hbalance : depth + braceBalance (line :: more).flatten =
      depth + braceBalance line + braceBalance more.flatten := by
    rw [List.flatten_cons, braceBalance_append]
    omega
  have hlast : (line :: more).getLast? = more.getLast? := by
    rw [List.getLast?_cons, List.getLast?_eq_some_getLast hmore, Option.getD_some]
  simp only [EndsAfter, hopen, hbalance, hlast]

theorem blockLines_append {opened : Bool} {depth : Int} {first : List Text}
    (h : ∃ span, span ≠ [] ∧ span <+: first ∧ EndsAfter opened depth span) (second : List Text) :
    blockLines opened depth (first ++ second) = blockLines opened depth first := by
  induction first generalizing opened depth with
  | nil =>
    obtain ⟨span, hne, hspan, -⟩ := h
    exact absurd (List.prefix_nil.mp hspan) hne
  | cons line rest ih =>
    simp only [List.cons_append, blockLines]
    split
    · rfl
    · rename_i hgoes
      refine congrArg (line :: ·) (ih ?_)
      obtain ⟨span, hne, hspan, hends⟩ := h
      obtain ⟨first, more, rfl⟩ := List.exists_cons_of_ne_nil hne
      obtain ⟨rfl, hmore⟩ := List.cons_prefix_cons.mp hspan
      by_cases hlast : more = []
      · subst hlast
        exact absurd (endsAfter_singleton.mp hends) hgoes
      · exact ⟨more, hlast, hmore, (endsAfter_cons hlast).mp hends⟩

def BlocksEnd (header : Pattern) (lines : List Text) : Prop :=
  ∀ line rest, line :: rest <:+ lines → header.occursIn line = true →
    ∃ span, span <+: line :: rest ∧ EndsBlock span

theorem blocksEnd_iff {header : Pattern} {lines : List Text} :
    (∀ below ∈ lines.tails, below.head?.any header.occursIn = true →
      ∃ span ∈ below.inits, EndsBlock span) ↔ BlocksEnd header lines := by
  simp only [List.mem_tails, List.mem_inits]
  constructor
  · intro h line rest hsuffix hheader
    exact h (line :: rest) hsuffix (by simpa using hheader)
  · intro h below hsuffix hheader
    cases below with
    | nil => simp at hheader
    | cons line rest => exact h line rest hsuffix (by simpa using hheader)

instance (header : Pattern) (lines : List Text) : Decidable (BlocksEnd header lines) :=
  decidable_of_iff _ blocksEnd_iff

theorem blocksFrom_append {header : Pattern} {first : List Text} (h : BlocksEnd header first)
    (number : Nat) (second : List Text) :
    blocksFrom header number (first ++ second) =
      blocksFrom header number first ++ blocksFrom header (number + first.length) second := by
  induction first generalizing number with
  | nil => rfl
  | cons line rest ih =>
    have hrest : BlocksEnd header rest := fun later more hsuffix =>
      h later more (hsuffix.trans (List.suffix_cons line rest))
    have hnumber : number + 1 + rest.length = number + (line :: rest).length := by
      rw [List.length_cons]
      omega
    simp only [List.cons_append, blocksFrom, ih hrest, hnumber]
    split
    · rename_i hheader
      obtain ⟨span, hspan, hends⟩ := h line rest (List.suffix_refl _) hheader
      obtain ⟨hne, hafter⟩ := endsAfter_of_endsBlock hends
      have hblock := blockLines_append ⟨span, hne, hspan, hafter⟩ second
      rw [List.cons_append] at hblock
      rw [hblock, List.cons_append]
    · rfl

def Block.moved (k : Nat) (b : Block) : Block :=
  { b with start := b.start + k }

@[simp] theorem Block.start_moved (k : Nat) (b : Block) : (b.moved k).start = b.start + k := rfl

@[simp] theorem Block.header_moved (k : Nat) (b : Block) : (b.moved k).header = b.header := rfl

theorem blocksFrom_moved (header : Pattern) (k number : Nat) (lines : List Text) :
    blocksFrom header (number + k) lines =
      (blocksFrom header number lines).map (Block.moved k) := by
  induction lines generalizing number with
  | nil => rfl
  | cons line rest ih =>
    have hrest := ih (number + 1)
    rw [show number + 1 + k = number + k + 1 by omega] at hrest
    rw [blocksFrom, blocksFrom, hrest]
    split <;> rfl

theorem functionBlocks_append_newline {left : Text} (hcomment : endsInComment false left = false)
    (hends : BlocksEnd functionHeader (bare left).lines) (rest : Text) :
    functionBlocks (left ++ '\n' :: rest) =
      functionBlocks left ++ (functionBlocks rest).map (Block.moved left.lines.length) := by
  unfold functionBlocks
  rw [bare_append_newline hcomment, Text.lines_append_newline_cons, blocksFrom_append hends,
    length_lines_bare, blocksFrom_moved]

end Source

namespace Catalog.Solidity

open Source

theorem reentrantCallsOf_moved (k : Nat) (b : Block) :
    reentrantCallsOf (b.moved k) = (reentrantCallsOf b).map (· + k) := by
  rw [reentrantCallsOf_eq, reentrantCallsOf_eq, Block.header_moved]
  split
  · rfl
  · rw [List.map_map]
    refine List.map_congr_left fun i _ => ?_
    simp only [Function.comp_apply, Block.start_moved]
    omega

/-- A detector that fires when one of some blocks offends. -/
structure BlockTest where
  id : String
  blocks : Text → List Block
  offends : Block → Bool
  reports : Pattern

namespace BlockTest

def unprotectedSelfDestruct : BlockTest where
  id := "unprotected-selfdestruct"
  blocks := functionBlocks
  offends b := selfDestruct.occursIn b.body && !isGuarded b
  reports := selfDestruct

def openWithdrawal : BlockTest where
  id := "unprotected-ether-withdrawal"
  blocks := functionBlocks
  offends := isOpenWithdrawal
  reports := balanceTransfer

def uncheckedAddress : BlockTest where
  id := "missing-zero-address-check"
  blocks := functionBlocks
  offends := storesUncheckedAddress
  reports := accountAssignment

def callInLoop : BlockTest where
  id := "call-in-loop"
  blocks := loopBlocks
  offends b := loopCall.occursIn b.body
  reports := loopStart

def holds (t : BlockTest) (code : Text) : Bool :=
  (t.blocks code).any t.offends

theorem detector_eq {t : BlockTest}
    (ht : t ∈ [unprotectedSelfDestruct, openWithdrawal, uncheckedAddress, callInLoop]) :
    ∀ d ∈ Catalog.of .solidity, d.id = t.id →
      d.trigger = .when t.holds ∧ d.matcher = .pattern t.reports ∧ d.locate = none := by
  simp only [List.mem_cons, List.not_mem_nil, or_false] at ht
  rcases ht with rfl | rfl | rfl | rfl
  all_goals
    simp only [Catalog.of, detectors, List.forall_mem_cons, unprotectedSelfDestruct,
      openWithdrawal, uncheckedAddress, callInLoop]
    simp
    rfl

theorem holds_append_newline {t : BlockTest}
    (ht : t ∈ [unprotectedSelfDestruct, openWithdrawal, uncheckedAddress]) {left : Text}
    (hcomment : endsInComment false left = false)
    (hends : BlocksEnd functionHeader (bare left).lines) (rest : Text) :
    t.holds (left ++ '\n' :: rest) = (t.holds left || t.holds rest) := by
  have hfunctions : t.blocks = functionBlocks ∧ ∀ k b, t.offends (b.moved k) = t.offends b := by
    simp only [List.mem_cons, List.not_mem_nil, or_false] at ht
    rcases ht with rfl | rfl | rfl
    all_goals exact ⟨rfl, fun k b => rfl⟩
  obtain ⟨hblocks, hmoved⟩ := hfunctions
  simp only [holds, hblocks, functionBlocks_append_newline hcomment hends, List.any_append,
    List.any_map, Function.comp_def, hmoved]

end BlockTest

theorem reentrantCalls_append_newline {left : Text} (hcomment : endsInComment false left = false)
    (hends : BlocksEnd functionHeader (bare left).lines) (rest : Text) :
    reentrantCalls (left ++ '\n' :: rest) =
      reentrantCalls left ++ (reentrantCalls rest).map (· + left.lines.length) := by
  simp only [reentrantCalls, functionBlocks_append_newline hcomment hends, List.flatMap_append,
    List.flatMap_map, reentrantCallsOf_moved, List.map_flatMap]

end Catalog.Solidity

namespace Analysis

open Source Catalog.Solidity

/-- Below a source with no comment and no function left open, another source has the functions that
it has alone, further down. So the reentrant calls are those of both, and a function that lacks a
guard is reported whatever guards the functions above and below it have. -/
theorem functions_judged_apart (upper lower : Text) (hcomment : endsInComment false upper = false)
    (hends : BlocksEnd functionHeader (bare upper).lines) :
    functionBlocks (upper ++ '\n' :: lower) =
        functionBlocks upper ++ (functionBlocks lower).map (Block.moved upper.lines.length) ∧
      reentrantCalls (upper ++ '\n' :: lower) =
        reentrantCalls upper ++ (reentrantCalls lower).map (· + upper.lines.length) ∧
      ∀ d ∈ Catalog.of .solidity,
        d.id ∈ ["unprotected-selfdestruct", "unprotected-ether-withdrawal",
          "missing-zero-address-check"] →
        (fires .solidity (upper ++ '\n' :: lower) d = true ↔
          fires .solidity upper d = true ∨ fires .solidity lower d = true) := by
  refine ⟨functionBlocks_append_newline hcomment hends lower,
    reentrantCalls_append_newline hcomment hends lower, ?_⟩
  intro d hd hid
  obtain ⟨t, ht, hdt⟩ : ∃ t ∈ [BlockTest.unprotectedSelfDestruct, .openWithdrawal,
      .uncheckedAddress], d.id = t.id := by
    simpa [BlockTest.unprotectedSelfDestruct, BlockTest.openWithdrawal,
      BlockTest.uncheckedAddress] using hid
  obtain ⟨htrigger, -, -⟩ :=
    BlockTest.detector_eq (List.mem_append_left [.callInLoop] ht) d hd hdt
  simp only [fires_iff_trigger hd, htrigger, Trigger.when, Except.ok.injEq,
    BlockTest.holds_append_newline ht hcomment hends, Bool.or_eq_true]

/-- The function below has no guard, and the guard of the one above does not hide it. -/
theorem functions_judged_apart_guarded :
    let upper := "function a() public onlyOwner \x7b\n selfdestruct(x);\n\x7d".toList
    let lower := "function b() public \x7b\n selfdestruct(x);\n\x7d".toList
    (endsInComment false upper = false ∧ BlocksEnd functionHeader (bare upper).lines) ∧
      (functionBlocks (upper ++ '\n' :: lower)).map (·.start) = [1, 4] ∧
      ∃ d ∈ Catalog.of .solidity, d.id = "unprotected-selfdestruct" ∧
        fires .solidity upper d = false ∧
        fires .solidity (upper ++ '\n' :: lower) d = true := by
  intro upper lower
  have hcomment : endsInComment false upper = false := by decide
  have hends : BlocksEnd functionHeader (bare upper).lines := by decide +kernel
  obtain ⟨hblocks, -, hfires⟩ := functions_judged_apart upper lower hcomment hends
  refine ⟨⟨hcomment, hends⟩, ?_, ?_⟩
  · rw [hblocks]
    decide +kernel
  · obtain ⟨d, hd, hid, hupper, hlower⟩ : ∃ d ∈ Catalog.of .solidity,
        d.id = "unprotected-selfdestruct" ∧ fires .solidity upper d = false ∧
          fires .solidity lower d = true := by decide +kernel
    exact ⟨d, hd, hid, hupper, (hfires d hd (by simp [hid])).mpr (.inr hlower)⟩

end Analysis

end ContractAudit
