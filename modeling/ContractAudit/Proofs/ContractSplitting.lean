import ContractAudit.Proofs.BlockExtent

/-!
# How a source splits into contracts

One scan finds all contracts, with a contract that is open carried from line to line. `Splits` says
what it finds without such a state: the first header from a line on, the first line at which the
braces opened since are closed again, and the same from the line after that one. The members of a
contract are the lines above which just one of its braces is open. A contract that is never closed
ends the list, whatever stands below its header.
-/
namespace ContractAudit.Source

/-! ## The split -/

def Closes (span : List Text) : Prop :=
  (∃ line ∈ span, '{' ∈ line) ∧ span.flatten.count '{' ≤ span.flatten.count '}'

def OneOpen (span : List Text) : Prop :=
  (∃ line ∈ span, '{' ∈ line) ∧ span.flatten.count '{' = span.flatten.count '}' + 1

instance (span : List Text) : Decidable (OneOpen span) :=
  inferInstanceAs (Decidable (_ ∧ _))

def numberedLine (t : Text) (n : Nat) : Text :=
  t.lines.getD (n - 1) []

/-- The contract is declared on lines `first` to `last`. -/
structure Declares (t : Text) (first last : Nat) (c : Contract) : Prop where
  header : ∃ m, contractHeader.matchStart? (numberedLine t first) = some m ∧
    c.name = m.group 1 ∧ c.parents = parentNames (m.group 2)
  start : c.start = first
  isEnd : t.IsFirstEnd Closes first last
  members : c.members = ((List.range' (first + 1) (last - first)).filter fun n =>
    OneOpen (t.linesBetween first (n - 1))).map fun n => (n, numberedLine t n)

def IsNextHeader (t : Text) (number first : Nat) : Prop :=
  IsLeast {n | number ≤ n ∧ n ≤ t.lines.length ∧
    contractHeader.opens (numberedLine t n) = true} first

inductive Splits (t : Text) : Nat → List Contract → Prop
  | finished {number : Nat} (hnone : ∀ first, ¬ IsNextHeader t number first) : Splits t number []
  | unclosed {number first : Nat} (hfirst : IsNextHeader t number first)
      (hopen : t.HasNoEnd Closes first) : Splits t number []
  | contract {number first last : Nat} {c : Contract} {rest : List Contract}
      (hfirst : IsNextHeader t number first) (hc : Declares t first last c)
      (hrest : Splits t (last + 1) rest) : Splits t number (c :: rest)

theorem Declares.unique {t : Text} {first last : Nat} {c c' : Contract}
    (h : Declares t first last c) (h' : Declares t first last c') : c = c' := by
  obtain ⟨⟨m, hm, hname, hparents⟩, hstart, -, hmembers⟩ := h
  obtain ⟨⟨m', hm', hname', hparents'⟩, hstart', -, hmembers'⟩ := h'
  obtain rfl : m = m' := Option.some.inj (hm.symm.trans hm')
  cases c
  cases c'
  simp_all

theorem Splits.unique {t : Text} {number : Nat} {cs cs' : List Contract} (h : Splits t number cs)
    (h' : Splits t number cs') : cs = cs' := by
  induction h generalizing cs' with
  | finished hnone =>
    cases h' with
    | finished => rfl
    | unclosed => rfl
    | contract hfirst => exact absurd hfirst (hnone _)
  | unclosed hfirst hopen =>
    cases h' with
    | finished => rfl
    | unclosed => rfl
    | contract hfirst' hc =>
      obtain rfl := hfirst.unique hfirst'
      obtain ⟨⟨hle, hlast, hcloses⟩, -⟩ := hc.isEnd
      exact absurd hcloses (hopen _ hle hlast)
  | contract hfirst hc hrest ih =>
    cases h' with
    | finished hnone => exact absurd hfirst (hnone _)
    | unclosed hfirst' hopen =>
      obtain rfl := hfirst.unique hfirst'
      obtain ⟨⟨hle, hlast, hcloses⟩, -⟩ := hc.isEnd
      exact absurd hcloses (hopen _ hle hlast)
    | contract hfirst' hc' hrest' =>
      obtain rfl := hfirst.unique hfirst'
      obtain rfl := hc.isEnd.unique hc'.isEnd
      rw [hc.unique hc', ih hrest']

/-! ## Runs of the scan -/

def OpenContract.advance (c : OpenContract) (number : Nat) : List Text → OpenContract
  | [] => c
  | line :: rest => ((c.addMember number line).countBraces line).advance (number + 1) rest

def OpenContract.isDirect (c : OpenContract) : Bool :=
  c.opened && c.depth == 1

namespace OpenContract

variable (c : OpenContract) (number : Nat) (span : List Text)

theorem addMember_eq (line : Text) : c.addMember number line =
    { c with members := (if c.isDirect then [(number, line)] else []) ++ c.members } := by
  unfold addMember isDirect
  split <;> rfl

theorem declaration_advance : (c.advance number span).name = c.name ∧
    (c.advance number span).parents = c.parents ∧ (c.advance number span).start = c.start := by
  induction span generalizing c number with
  | nil => exact ⟨rfl, rfl, rfl⟩
  | cons line rest ih =>
    obtain ⟨hname, hparents, hstart⟩ := ih ((c.addMember number line).countBraces line) (number + 1)
    rw [advance, hname, hparents, hstart, addMember_eq]
    exact ⟨rfl, rfl, rfl⟩

theorem opened_advance : (c.advance number span).opened = true ↔
    c.opened = true ∨ ∃ line ∈ span, '{' ∈ line := by
  induction span generalizing c number with
  | nil => simp [advance]
  | cons line rest ih => simp [advance, ih, addMember_eq, countBraces, or_assoc]

theorem depth_advance : (c.advance number span).depth = c.depth + braceBalance span.flatten := by
  induction span generalizing c number with
  | nil => simp [advance, braceBalance]
  | cons line rest ih =>
    rw [advance, ih, addMember_eq, List.flatten_cons, braceBalance_append]
    simp only [countBraces]
    omega

/-- What is added to the members: the lines at which the run has come to stand directly in the body.
-/
theorem members_advance : (c.advance number span).members =
    (((List.range span.length).filter fun j => (c.advance number (span.take j)).isDirect).map
      fun j => (number + j, span.getD j [])).reverse ++ c.members := by
  induction span generalizing c number with
  | nil => rfl
  | cons line rest ih =>
    have hlater (indexes : List Nat) :
        (indexes.map Nat.succ).map (fun j => (number + j, (line :: rest).getD j [])) =
          indexes.map fun j => (number + 1 + j, rest.getD j []) := by
      rw [List.map_map]
      refine List.map_congr_left fun j _ => ?_
      simp only [Function.comp_apply, Prod.mk.injEq, List.getD_cons_succ, and_true]
      omega
    have hmembers : ((c.addMember number line).countBraces line).members =
        (if c.isDirect then [(number, line)] else []) ++ c.members := by
      rw [addMember_eq]
      rfl
    rw [advance, ih, hmembers, List.length_cons, List.range_succ_eq_map, List.filter_cons,
      List.filter_map]
    by_cases hdirect : c.isDirect = true
    · rw [if_pos hdirect, if_pos (by exact hdirect), List.map_cons, hlater, List.reverse_cons,
        List.append_assoc]
      rfl
    · rw [if_neg hdirect, if_neg (by exact hdirect), hlater, List.nil_append]
      rfl

end OpenContract

/-- An open contract ends at the first line that finishes it, or it is never finished and nothing is
found any more. -/
theorem contractsFrom_some_cases (c : OpenContract) (number : Nat) (lines : List Text) :
    (∃ n, Text.Fewest (fun span => (c.advance number span).isFinished = true) lines n ∧
        contractsFrom (some c) number lines =
          (c.advance number (lines.take n)).close ::
            contractsFrom none (number + n) (lines.drop n)) ∨
      Text.NeverWhole (fun span => (c.advance number span).isFinished = true) lines ∧
        contractsFrom (some c) number lines = [] := by
  induction lines generalizing c number with
  | nil =>
    refine .inr ⟨?_, rfl⟩
    intro n hpos hle
    simp only [List.length_nil] at hle
    omega
  | cons line rest ih =>
    have hcontracts : contractsFrom (some c) number (line :: rest) =
        if (c.advance number [line]).isFinished then
          (c.advance number [line]).close :: contractsFrom none (number + 1) rest
        else contractsFrom (some (c.advance number [line])) (number + 1) rest := rfl
    by_cases hfinished : (c.advance number [line]).isFinished = true
    · exact .inl ⟨1, Text.fewest_cons_one hfinished, by rw [hcontracts, if_pos hfinished]; rfl⟩
    · rw [hcontracts, if_neg hfinished]
      rcases ih (c.advance number [line]) (number + 1) with ⟨n, hn, hrest⟩ | ⟨hnever, hrest⟩
      · refine .inl ⟨n + 1, hn.cons hfinished fun more _ => Iff.rfl, ?_⟩
        rw [hrest, List.take_succ_cons, List.drop_succ_cons,
          show number + 1 + n = number + (n + 1) by omega]
        rfl
      · exact .inr ⟨hnever.cons hfinished fun more _ => Iff.rfl, hrest⟩

/-- Before its header a contract has no braces, so the header is counted like any other line. -/
theorem contractsFrom_none_cons (number : Nat) (line : Text) (rest : List Text) :
    contractsFrom none number (line :: rest) =
      match openContract? number line with
      | none => contractsFrom none (number + 1) rest
      | some c => contractsFrom (some c) number (line :: rest) := by
  rw [contractsFrom]
  cases hopen : openContract? number line with
  | none => rfl
  | some c =>
    obtain ⟨m, -, rfl⟩ := Option.map_eq_some_iff.mp hopen
    rfl

/-! ## Contracts from their headers -/

def OpenContract.ofMatch (number : Nat) (m : Pattern.Match) : OpenContract :=
  ⟨m.group 1, parentNames (m.group 2), number, [], false, 0⟩

section OfMatch

variable (number : Nat) (m : Pattern.Match) (span : List Text)

theorem isFinished_advance_ofMatch :
    ((OpenContract.ofMatch number m).advance number span).isFinished = true ↔ Closes span := by
  rw [OpenContract.isFinished, Bool.and_eq_true, OpenContract.opened_advance,
    OpenContract.depth_advance, decide_eq_true_iff, OpenContract.ofMatch, braceBalance, Closes]
  refine and_congr (by simp) ?_
  simp only
  omega

theorem isDirect_advance_ofMatch :
    ((OpenContract.ofMatch number m).advance number span).isDirect = true ↔ OneOpen span := by
  rw [OpenContract.isDirect, Bool.and_eq_true, OpenContract.opened_advance,
    OpenContract.depth_advance, beq_iff_eq, OpenContract.ofMatch, braceBalance, OneOpen]
  refine and_congr (by simp) ?_
  simp only
  omega

end OfMatch

theorem members_advance_ofMatch (t : Text) (m : Pattern.Match) {i n : Nat} (hpos : 0 < n)
    (hle : n ≤ (t.lines.drop i).length) :
    ((OpenContract.ofMatch (i + 1) m).advance (i + 1) ((t.lines.drop i).take n)).members.reverse =
      ((List.range' (i + 1 + 1) (i + n - (i + 1))).filter fun k =>
        OneOpen (t.linesBetween (i + 1) (k - 1))).map fun k => (k, numberedLine t k) := by
  obtain ⟨n, rfl⟩ : ∃ k, n = k + 1 := ⟨n - 1, by omega⟩
  have hinside : ∀ j < n, (((OpenContract.ofMatch (i + 1) m).advance (i + 1)
        (((t.lines.drop i).take (n + 1)).take (j + 1))).isDirect =
      decide (OneOpen (t.linesBetween (i + 1) (i + 1 + 1 + j - 1)))) := by
    intro j hj
    rw [Bool.eq_iff_iff, isDirect_advance_ofMatch, decide_eq_true_iff, List.take_take,
      Nat.min_eq_left (by omega), Text.linesBetween_eq, show i + 1 + 1 + j - 1 - i = j + 1 by omega]
  have hline : ∀ j < n, ((t.lines.drop i).take (n + 1)).getD (j + 1) [] =
      numberedLine t (i + 1 + 1 + j) := by
    intro j hj
    rw [numberedLine, List.getD_eq_getElem?_getD, List.getD_eq_getElem?_getD, List.getElem?_take,
      if_pos (by omega), List.getElem?_drop, show i + 1 + 1 + j - 1 = i + (j + 1) by omega]
  have hfilter : ((List.range (n + 1)).filter fun j => ((OpenContract.ofMatch (i + 1) m).advance
        (i + 1) (((t.lines.drop i).take (n + 1)).take j)).isDirect) =
      ((List.range n).filter fun j =>
        OneOpen (t.linesBetween (i + 1) (i + 1 + 1 + j - 1))).map Nat.succ := by
    rw [List.range_succ_eq_map, List.filter_cons_of_neg Bool.false_ne_true, List.filter_map]
    exact congrArg _ (List.filter_congr fun j hj => hinside j (List.mem_range.mp hj))
  rw [OpenContract.members_advance, List.reverse_append, List.reverse_reverse, List.length_take,
    Nat.min_eq_left hle, hfilter, show i + (n + 1) - (i + 1) = n by omega,
    List.range'_eq_map_range, List.filter_map, List.map_map, List.map_map]
  refine List.map_congr_left fun j hj => ?_
  have hj : j < n := List.mem_range.mp (List.mem_of_mem_filter hj)
  simp only [Function.comp_apply, Nat.succ_eq_add_one, hline j hj, Prod.mk.injEq, and_true]
  omega

theorem declares_advance_ofMatch {t : Text} {m : Pattern.Match} {i n : Nat}
    (hm : contractHeader.matchStart? (numberedLine t (i + 1)) = some m)
    (hn : Text.Fewest Closes (t.lines.drop i) n) :
    Declares t (i + 1) (i + n)
      ((OpenContract.ofMatch (i + 1) m).advance (i + 1) ((t.lines.drop i).take n)).close := by
  obtain ⟨hname, hparents, hstart⟩ := (OpenContract.ofMatch (i + 1) m).declaration_advance (i + 1)
    ((t.lines.drop i).take n)
  obtain ⟨⟨hpos, hle, -⟩, -⟩ := id hn
  exact
    { header := ⟨m, hm, hname, hparents⟩
      start := hstart
      isEnd := hn.isFirstEnd
      members := members_advance_ofMatch t m hpos hle }

section Splitting

variable {t : Text} {i : Nat} {line : Text} {rest : List Text}

theorem numberedLine_of_drop (h : t.lines.drop i = line :: rest) :
    i < t.lines.length ∧ numberedLine t (i + 1) = line := by
  have hlt : i < t.lines.length := by
    by_contra hge
    rw [List.drop_eq_nil_of_le (by omega)] at h
    exact List.cons_ne_nil _ _ h.symm
  refine ⟨hlt, ?_⟩
  rw [List.drop_eq_getElem_cons hlt, List.cons.injEq] at h
  rw [numberedLine, Nat.add_sub_cancel, List.getD_eq_getElem?_getD, List.getElem?_eq_getElem hlt,
    Option.getD_some, h.1]

theorem isNextHeader_succ_iff {number first : Nat}
    (h : contractHeader.opens (numberedLine t number) = false) :
    IsNextHeader t number first ↔ IsNextHeader t (number + 1) first := by
  have hset : {n | number ≤ n ∧ n ≤ t.lines.length ∧
        contractHeader.opens (numberedLine t n) = true} =
      {n | number + 1 ≤ n ∧ n ≤ t.lines.length ∧
        contractHeader.opens (numberedLine t n) = true} := by
    ext n
    constructor
    · rintro ⟨hle, hlast, hopens⟩
      have hne : n ≠ number := by
        rintro rfl
        rw [h] at hopens
        exact Bool.false_ne_true hopens
      exact ⟨by omega, hlast, hopens⟩
    · rintro ⟨hle, hlast, hopens⟩
      exact ⟨by omega, hlast, hopens⟩
  rw [IsNextHeader, hset, IsNextHeader]

theorem Splits.of_succ {number : Nat} {cs : List Contract}
    (hline : contractHeader.opens (numberedLine t number) = false) (h : Splits t (number + 1) cs) :
    Splits t number cs := by
  cases h with
  | finished hnone =>
    exact .finished fun first hfirst => hnone first ((isNextHeader_succ_iff hline).mp hfirst)
  | unclosed hfirst hopen => exact .unclosed ((isNextHeader_succ_iff hline).mpr hfirst) hopen
  | contract hfirst hc hrest => exact .contract ((isNextHeader_succ_iff hline).mpr hfirst) hc hrest

end Splitting

theorem splits_contractsFrom (t : Text) (i : Nat) :
    Splits t (i + 1) (contractsFrom none (i + 1) (t.lines.drop i)) := by
  -- The lines below get fewer with every contract and with every line that starts none.
  induction hk : t.lines.length - i using Nat.strong_induction_on generalizing i with
  | _ k ih =>
    subst hk
    cases hlines : t.lines.drop i with
    | nil =>
      refine .finished ?_
      rintro first ⟨⟨hle, hlast, -⟩, -⟩
      have := List.drop_eq_nil_iff.mp hlines
      omega
    | cons line rest =>
      obtain ⟨hlt, hline⟩ := numberedLine_of_drop hlines
      have hrest : t.lines.drop (i + 1) = rest := by
        rw [← List.drop_drop, hlines]
        rfl
      rw [contractsFrom_none_cons, openContract?]
      cases hm : contractHeader.matchStart? line with
      | none =>
        have hopens : contractHeader.opens (numberedLine t (i + 1)) = false := by
          rw [hline, Pattern.opens, hm]
          rfl
        have := ih (t.lines.length - (i + 1)) (by omega) (i + 1) rfl
        rw [hrest] at this
        exact this.of_succ hopens
      | some m =>
        rw [← hline] at hm
        have hfirst : IsNextHeader t (i + 1) (i + 1) := by
          refine ⟨⟨Nat.le_refl _, hlt, ?_⟩, fun n hn => hn.1⟩
          rw [Pattern.opens, hm]
          rfl
        have hfinished : (fun span => ((OpenContract.ofMatch (i + 1) m).advance (i + 1)
            span).isFinished = true) = Closes :=
          funext fun span => propext (isFinished_advance_ofMatch (i + 1) m span)
        have hcases := contractsFrom_some_cases (OpenContract.ofMatch (i + 1) m) (i + 1)
          (line :: rest)
        rw [hfinished, ← hlines] at hcases
        rw [← hlines]
        rcases hcases with ⟨n, hn, hcontracts⟩ | ⟨hnever, hcontracts⟩
        · have hpos : 0 < n := hn.1.1
          have hbelow := ih (t.lines.length - (i + n)) (by omega) (i + n) rfl
          rw [List.drop_drop, show i + 1 + n = i + n + 1 by omega] at hcontracts
          refine (congrArg (Splits t (i + 1)) hcontracts).mpr ?_
          exact .contract hfirst (declares_advance_ofMatch hm hn) hbelow
        · refine (congrArg (Splits t (i + 1)) hcontracts).mpr ?_
          exact .unclosed hfirst hnever.hasNoEnd

/-! ## Order -/

namespace Declares

variable {t : Text} {first last : Nat} {c : Contract}

theorem mem_members_iff (h : Declares t first last c) {n : Nat} {line : Text} :
    (n, line) ∈ c.members ↔
      (first < n ∧ n ≤ last) ∧ OneOpen (t.linesBetween first (n - 1)) ∧
        numberedLine t n = line := by
  have hle : first ≤ last := h.isEnd.1.1
  rw [h.members, List.mem_map]
  simp only [List.mem_filter, List.mem_range'_1, decide_eq_true_eq, Prod.mk.injEq]
  constructor
  · rintro ⟨k, ⟨⟨hfirst, hlast⟩, hopen⟩, rfl, rfl⟩
    exact ⟨⟨by omega, by omega⟩, hopen, rfl⟩
  · rintro ⟨⟨hfirst, hlast⟩, hopen, rfl⟩
    exact ⟨n, ⟨⟨by omega, by omega⟩, hopen⟩, rfl, rfl⟩

theorem pairwise_members (h : Declares t first last c) :
    (c.members.map Prod.fst).Pairwise (· < ·) := by
  rw [h.members, List.map_map]
  have hnumbers : (List.range' (first + 1) (last - first)).Pairwise (· < ·) :=
    List.pairwise_lt_range'
  simpa [Function.comp_def] using hnumbers.filter _

end Declares

namespace Splits

variable {t : Text} {number : Nat} {cs : List Contract}

theorem exists_declares (h : Splits t number cs) {c : Contract} (hc : c ∈ cs) :
    number ≤ c.start ∧ ∃ last, Declares t c.start last c := by
  induction h with
  | finished => simp at hc
  | unclosed => simp at hc
  | @contract number first last declared rest hfirst hdeclared hrest ih =>
    obtain ⟨⟨hle, -, -⟩, -⟩ := hfirst
    obtain rfl := hdeclared.start
    rcases List.mem_cons.mp hc with rfl | hc
    · exact ⟨hle, last, hdeclared⟩
    · obtain ⟨hbelow, hlater⟩ := ih hc
      have hlast : declared.start ≤ last := hdeclared.isEnd.1.1
      exact ⟨by omega, hlater⟩

theorem pairwise_apart (h : Splits t number cs) :
    cs.Pairwise fun c c' => ∀ last, Declares t c.start last c → last < c'.start := by
  induction h with
  | finished => exact .nil
  | unclosed => exact .nil
  | contract hfirst hdeclared hrest ih =>
    refine .cons ?_ ih
    intro c' hc' last hlast
    obtain rfl := hdeclared.start
    obtain rfl := hlast.isEnd.unique hdeclared.isEnd
    exact (hrest.exists_declares hc').1

theorem pairwise_start (h : Splits t number cs) : (cs.map (·.start)).Pairwise (· < ·) := by
  rw [List.pairwise_map]
  refine h.pairwise_apart.imp_of_mem fun {c c'} hc _ hapart => ?_
  obtain ⟨-, last, hlast⟩ := h.exists_declares hc
  have hle : c.start ≤ last := hlast.isEnd.1.1
  have := hapart last hlast
  omega

theorem pairwise_members (h : Splits t number cs) :
    (cs.flatMap fun c => c.members.map Prod.fst).Pairwise (· < ·) := by
  rw [List.pairwise_flatMap]
  refine ⟨?_, h.pairwise_apart.imp_of_mem fun {c c'} hc hc' hapart => ?_⟩
  · intro c hc
    obtain ⟨-, last, hlast⟩ := h.exists_declares hc
    exact hlast.pairwise_members
  · obtain ⟨-, last, hlast⟩ := h.exists_declares hc
    obtain ⟨-, last', hlast'⟩ := h.exists_declares hc'
    intro n hn n' hn'
    obtain ⟨⟨n, line⟩, hmem, rfl⟩ := List.mem_map.mp hn
    obtain ⟨⟨n', line'⟩, hmem', rfl⟩ := List.mem_map.mp hn'
    obtain ⟨⟨-, hle⟩, -⟩ := hlast.mem_members_iff.mp hmem
    obtain ⟨⟨hlt, -⟩, -⟩ := hlast'.mem_members_iff.mp hmem'
    have := hapart last hlast
    simp only
    omega

end Splits

theorem exists_member_of_stateVariable {c : Contract} {v : StateVariable}
    (h : v ∈ c.stateVariables) : ∃ line, (v.line, line) ∈ c.members := by
  obtain ⟨⟨n, line⟩, hmem, hv⟩ := List.mem_filterMap.mp h
  obtain ⟨m, -, rfl⟩ := Option.map_eq_some_iff.mp hv
  exact ⟨line, hmem⟩

/-- The contracts of a source are what its headers and braces split it into. They and their members
come in order, they have no line in common, and the line of a state variable stands below just one
brace of its contract. -/
theorem contracts_split_exactly (code : Text) :
    (∀ cs, contracts code = cs ↔ Splits (bare code) 1 cs) ∧
      ((contracts code).map (·.start)).Pairwise (· < ·) ∧
      ((contracts code).flatMap fun c => c.members.map Prod.fst).Pairwise (· < ·) ∧
      (∀ c ∈ contracts code, ∃ last, Declares (bare code) c.start last c) ∧
      ((contracts code).Pairwise fun c c' =>
        ∀ last, Declares (bare code) c.start last c → last < c'.start) ∧
      ∀ c ∈ contracts code, ∀ v ∈ c.stateVariables,
        c.start < v.line ∧ OneOpen ((bare code).linesBetween c.start (v.line - 1)) := by
  have hsplits : Splits (bare code) 1 (contracts code) := splits_contractsFrom (bare code) 0
  refine ⟨?_, hsplits.pairwise_start, hsplits.pairwise_members, ?_, hsplits.pairwise_apart, ?_⟩
  · intro cs
    constructor
    · rintro rfl
      exact hsplits
    · intro h
      exact hsplits.unique h
  · intro c hc
    exact (hsplits.exists_declares hc).2
  · intro c hc v hv
    obtain ⟨-, last, hlast⟩ := hsplits.exists_declares hc
    obtain ⟨line, hmem⟩ := exists_member_of_stateVariable hv
    obtain ⟨⟨hlt, -⟩, hopen, -⟩ := hlast.mem_members_iff.mp hmem
    exact ⟨hlt, hopen⟩

/-- The variable of the struct is passed over, and the contract that is not closed is left out. -/
theorem contracts_split_exactly_nested :
    let code := ("contract A \x7b\n uint x;\n\x7d\ncontract B\n\x7b\n struct S \x7b\n  uint y;\n" ++
      " \x7d\n uint z;\n\x7d\ncontract C \x7b\n uint w;").toList
    ((contracts code).map fun c => (c.start, c.stateVariables.map (·.line))) =
        [(1, [2]), (4, [9])] ∧
      ∃ c ∈ contracts code, ∃ v ∈ c.stateVariables, (c.start = 4 ∧ v.line = 9) ∧
        (∃ last, Declares (bare code) c.start last c) ∧
        OneOpen ((bare code).linesBetween c.start (v.line - 1)) := by
  intro code
  have hcontracts : ((contracts code).map fun c => (c.start, c.stateVariables.map (·.line))) =
      [(1, [2]), (4, [9])] := by decide +kernel
  obtain ⟨c, hc, v, hv, hlines⟩ : ∃ c ∈ contracts code, ∃ v ∈ c.stateVariables,
      c.start = 4 ∧ v.line = 9 := by decide +kernel
  obtain ⟨-, -, -, hdeclares, -, hvariables⟩ := contracts_split_exactly code
  exact ⟨hcontracts, c, hc, v, hv, hlines, hdeclares c hc, (hvariables c hc v hv).2⟩

end ContractAudit.Source
