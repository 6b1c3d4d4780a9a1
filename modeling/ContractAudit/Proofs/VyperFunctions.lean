import ContractAudit.Catalog.Vyper.Triggers
import ContractAudit.Proofs.PatternMeaning
import Mathlib.Data.List.Basic
import Mathlib.Data.List.TakeWhile
import Mathlib.Order.Bounds.Basic

/-!
# Where functions begin and end

There is a function for every line that looks like a `def`, whatever functions stand around it. Its
lines run to the first line below that is not blank and is indented no deeper, and its decorators
are all the lines right above it that start with an at sign. The scan walks outward from each `def`;
here both ends are said by least line numbers, so they are unique.

Functions may overlap, since one may stand inside another. Two of the same indentation do not: the
lower `def` ends the upper function.
-/
namespace ContractAudit.Catalog.Vyper

open Source

/-- Line `e` is the first below line `i` that is not blank and is indented by no more than `indent`;
if there is none, `e` is the number of lines. -/
def IsEnd (lines : List Text) (indent i e : Nat) : Prop :=
  IsLeast {e | i < e ∧ ∀ line, lines[e]? = some line →
    Text.isBlankText line = false ∧ indentation line ≤ indent} e

/-- Line `top` is the highest from which on all lines above line `i` start with an at sign. -/
def IsTop (lines : List Text) (i top : Nat) : Prop :=
  IsLeast {top | top ≤ i ∧ ∀ line ∈ (lines.take i).drop top,
    (Text.trim line).startsWith ['@'] = true} top

structure Declaration (lines : List Text) where
  top : Nat
  start : Nat
  stop : Nat
  head : Text
  head_eq : lines[start]? = some head
  isDef : defLine.opens head = true
  isTop : IsTop lines start top
  isEnd : IsEnd lines (indentation head) start stop

def Declaration.function {lines : List Text} (d : Declaration lines) : Function where
  decorators := ((lines.take d.start).drop d.top).reverse.map Text.trim
  lines := (lines.take d.stop).drop d.start

def Declaration.Covers {lines : List Text} (d : Declaration lines) (n : Nat) : Prop :=
  d.start ≤ n ∧ n < d.stop

/-! ## The scan from one `def` -/

def functionAt (lines : List Text) (i : Nat) : Function where
  decorators := ((lines.take i).reverse.takeWhile isDecorator).map Text.trim
  lines := lines.getD i [] ::
    (lines.drop (i + 1)).takeWhile fun l => !endsFunction (indentation (lines.getD i [])) l

theorem length_group_of_defLine {line : Text} {m : Pattern.Match}
    (h : defLine.matchStart? line = some m) : (m.group 1).length = indentation line := by
  obtain ⟨s, hs, rfl⟩ := Pattern.matchHere?_eq_some h
  obtain ⟨_, ⟨-, rfl⟩, _, ⟨_, ⟨margin, rest, hline, hmargin, rfl⟩, rfl⟩, _, ⟨rest', hrest, rfl⟩,
    _, ⟨_, ⟨_, _, -, -, rfl⟩, _, _, -, -, rfl⟩, _, ⟨_, _, -, -, rfl⟩, _, _, -, -, rfl⟩ := hs
  have hline : line = margin ++ rest := hline
  have hrest : rest = 'd' :: 'e' :: 'f' :: rest' := hrest
  have hd : Text.isBlank 'd' = false := by decide
  have hgroup : (Pattern.Capture.text ⟨1, line, rest⟩).length = margin.length := by
    rw [hline, Pattern.Capture.text_of_append]
  have hindent : indentation line = margin.length := by
    rw [indentation, hline, List.takeWhile_append_of_pos hmargin, hrest,
      List.takeWhile_cons_of_neg (by simp [hd]), List.append_nil]
  exact hgroup.trans hindent.symm

theorem functionsAfter_eq (above rest : List Text) :
    functionsAfter above rest =
      (rest.findIdxs defLine.opens above.length).map (functionAt (above.reverse ++ rest)) := by
  induction rest generalizing above with
  | nil => rfl
  | cons line rest ih =>
    have hlater := ih (line :: above)
    rw [List.reverse_cons, List.append_assoc, List.singleton_append, List.length_cons] at hlater
    rw [functionsAfter, List.findIdxs_cons, Pattern.opens]
    cases hdef : defLine.matchStart? line with
    | none => exact hlater
    | some m =>
      have hhead : (above.reverse ++ line :: rest).getD above.length [] = line := by simp
      have habove : (above.reverse ++ line :: rest).take above.length = above.reverse := by
        rw [← List.length_reverse, List.take_left]
      have hbelow : (above.reverse ++ line :: rest).drop (above.length + 1) = rest := by
        rw [← List.length_reverse, ← List.drop_drop, List.drop_left, List.drop_one, List.tail_cons]
      simp only [Option.isSome_some, if_true, List.map_cons, functionAt, hhead, habove, hbelow,
        List.reverse_reverse, length_group_of_defLine hdef, hlater]

theorem functions_eq (code : Text) :
    functions code =
      ((hashless code).lines.findIdxs defLine.opens).map (functionAt (hashless code).lines) :=
  functionsAfter_eq [] (hashless code).lines

/-! ## Both ends -/

section Ends

variable {lines : List Text} {i : Nat}

theorem endsFunction_iff {indent : Nat} {line : Text} :
    endsFunction indent line = true ↔
      Text.isBlankText line = false ∧ indentation line ≤ indent := by
  simp [endsFunction]

theorem isEnd_findIdx (indent : Nat) :
    IsEnd lines indent i (i + 1 + (lines.drop (i + 1)).findIdx (endsFunction indent)) := by
  refine ⟨⟨by omega, fun line hline => ?_⟩, ?_⟩
  · rw [← List.getElem?_drop] at hline
    obtain ⟨hlt, hget⟩ := List.getElem?_eq_some_iff.mp hline
    rw [← endsFunction_iff, ← hget]
    exact List.findIdx_getElem
  · rintro e ⟨hlt, hends⟩
    by_contra hpassed
    have hbefore : e - (i + 1) < (lines.drop (i + 1)).findIdx (endsFunction indent) := by omega
    have hinside : e - (i + 1) < (lines.drop (i + 1)).length :=
      Nat.lt_of_lt_of_le hbefore List.findIdx_le_length
    have hgoes := List.not_of_lt_findIdx hbefore
    have hline : lines[e]? = some (lines.drop (i + 1))[e - (i + 1)] := by
      rw [← List.getElem?_eq_getElem hinside, List.getElem?_drop,
        show i + 1 + (e - (i + 1)) = e by omega]
    rw [endsFunction_iff.mpr (hends _ hline)] at hgoes
    exact Bool.false_ne_true hgoes.symm

theorem drop_top_eq (above : List Text) :
    above.drop (above.length - (above.reverse.takeWhile isDecorator).length) =
      (above.reverse.takeWhile isDecorator).reverse := by
  have htake := List.prefix_iff_eq_take.mp (List.takeWhile_prefix isDecorator (l := above.reverse))
  have hreverse := List.reverse_take (l := above.reverse)
    (i := (above.reverse.takeWhile isDecorator).length)
  rw [← htake, List.reverse_reverse, List.length_reverse] at hreverse
  exact hreverse.symm

theorem isTop_takeWhile (hi : i ≤ lines.length) :
    IsTop lines i (i - ((lines.take i).reverse.takeWhile isDecorator).length) := by
  have hlength : (lines.take i).length = i := List.length_take_of_le hi
  refine ⟨⟨Nat.sub_le _ _, fun line hline => ?_⟩, ?_⟩
  · have hdrop := drop_top_eq (lines.take i)
    rw [hlength] at hdrop
    rw [hdrop, List.mem_reverse] at hline
    exact List.mem_takeWhile_imp (p := isDecorator) hline
  · rintro top ⟨hle, hall⟩
    have hsplit : (lines.take i).reverse =
        ((lines.take i).drop top).reverse ++ ((lines.take i).take top).reverse := by
      rw [← List.reverse_append, List.take_append_drop]
    have hpassed : ∀ line ∈ ((lines.take i).drop top).reverse, isDecorator line = true := by
      intro line hline
      exact hall line (List.mem_reverse.mp hline)
    rw [hsplit, List.takeWhile_append_of_pos hpassed, List.length_append, List.length_reverse,
      List.length_drop, hlength]
    omega

end Ends

/-! ## Declarations -/

theorem exists_declaration {lines : List Text} {i : Nat} (hi : i ∈ lines.findIdxs defLine.opens) :
    ∃ d : Declaration lines, d.start = i ∧ d.function = functionAt lines i := by
  obtain ⟨hlt, hdef⟩ := List.mem_findIdxs_iff_exists_getElem_pos.mp hi
  have hhead : lines[i]? = some lines[i] := List.getElem?_eq_getElem hlt
  have hgetD : lines.getD i [] = lines[i] := by
    rw [List.getD_eq_getElem?_getD, hhead, Option.getD_some]
  let d : Declaration lines :=
    { top := _
      start := i
      stop := _
      head := lines[i]
      head_eq := hhead
      isDef := hdef
      isTop := isTop_takeWhile (Nat.le_of_lt hlt)
      isEnd := isEnd_findIdx (indentation lines[i]) }
  refine ⟨d, rfl, ?_⟩
  have hdecorators : d.function.decorators = (functionAt lines i).decorators := by
    have hdrop := drop_top_eq (lines.take i)
    rw [List.length_take_of_le (Nat.le_of_lt hlt)] at hdrop
    simp only [Declaration.function, d, hdrop, List.reverse_reverse, functionAt]
  have hlines : d.function.lines = (functionAt lines i).lines := by
    simp only [Declaration.function, d, functionAt, hgetD]
    rw [List.drop_take, Nat.add_assoc, Nat.add_sub_cancel_left, List.drop_eq_getElem_cons hlt,
      Nat.add_comm, List.take_succ_cons, List.takeWhile_eq_take_findIdx_not]
    simp
  exact (Function.mk.injEq ..).mpr ⟨hdecorators, hlines⟩

theorem isBlankText_eq_false_of_opens {line : Text} (h : defLine.opens line = true) :
    Text.isBlankText line = false := by
  have hoccurs : defLine.occursIn line = true := by
    obtain ⟨s, hs⟩ := Pattern.matchHere?_isSome_iff.mp h
    exact Pattern.occursIn_iff.mpr ⟨[], line, s, rfl, hs⟩
  exact Pattern.isBlankText_eq_false_of_occursIn (by decide) hoccurs

theorem Declaration.stop_le {lines : List Text} {d d' : Declaration lines}
    (hlt : d.start < d'.start) (hindent : indentation d.head = indentation d'.head) :
    d.stop ≤ d'.start := by
  refine d.isEnd.2 ⟨hlt, fun line hline => ?_⟩
  obtain rfl : line = d'.head := Option.some.inj (hline.symm.trans d'.head_eq)
  exact ⟨isBlankText_eq_false_of_opens d'.isDef, Nat.le_of_eq hindent.symm⟩

theorem exists_declarations {lines : List Text} {starts : List Nat}
    (h : ∀ i ∈ starts, i ∈ lines.findIdxs defLine.opens) :
    ∃ declarations : List (Declaration lines),
      declarations.map (·.start) = starts ∧
        starts.map (functionAt lines) = declarations.map (·.function) := by
  induction starts with
  | nil => exact ⟨[], rfl, rfl⟩
  | cons i starts ih =>
    obtain ⟨hi, hstarts⟩ := List.forall_mem_cons.mp h
    obtain ⟨d, rfl, hd⟩ := exists_declaration hi
    obtain ⟨ds, rfl, hds⟩ := ih hstarts
    exact ⟨d :: ds, rfl, by rw [List.map_cons, List.map_cons, hd, hds]⟩

/-- There is one function for each line that looks like a `def`, in order, with the decorators right
above it and the lines up to the first that ends it. Functions of one indentation do not overlap. -/
theorem functions_exact (code : Text) :
    (∃ declarations : List (Declaration (hashless code).lines),
      declarations.map (·.start) = (hashless code).lines.findIdxs defLine.opens ∧
        functions code = declarations.map (·.function)) ∧
      ∀ d d' : Declaration (hashless code).lines, d.start ≠ d'.start →
        indentation d.head = indentation d'.head → ∀ n, d.Covers n → ¬ d'.Covers n := by
  refine ⟨?_, fun d d' hne hindent => ?_⟩
  · rw [functions_eq]
    exact exists_declarations fun i hi => hi
  · rintro n ⟨hstart, hstop⟩ ⟨hstart', hstop'⟩
    rcases Nat.lt_or_gt_of_ne hne with hlt | hlt
    · have hends := Declaration.stop_le hlt hindent
      omega
    · have hends := Declaration.stop_le hlt hindent.symm
      omega

/-- The second function stands inside the first, and the third ends both. A comment that is indented
less than the second ends nothing. -/
theorem functions_exact_nested :
    let code := ("@external\n@view\ndef f():\n    def g():\n  # c\n        pass\ndef h():\n" ++
      "    pass").toList
    ∃ d d' d'' : Declaration (hashless code).lines,
      functions code = [d.function, d'.function, d''.function] ∧
        [d.start, d'.start, d''.start] = [2, 3, 6] ∧
        ∀ n, d.Covers n → ¬ d''.Covers n := by
  intro code
  obtain ⟨⟨ds, hstarts, hfunctions⟩, hdisjoint⟩ := functions_exact code
  have hdefs : (hashless code).lines.findIdxs defLine.opens = [2, 3, 6] := by decide
  rw [hdefs] at hstarts
  obtain ⟨d, ds, rfl, hd, hstarts⟩ := List.map_eq_cons_iff.mp hstarts
  obtain ⟨d', ds, rfl, hd', hstarts⟩ := List.map_eq_cons_iff.mp hstarts
  obtain ⟨d'', ds, rfl, hd'', hstarts⟩ := List.map_eq_cons_iff.mp hstarts
  obtain rfl := List.map_eq_nil_iff.mp hstarts
  have hhead : (hashless code).lines[2]? = some d.head := hd ▸ d.head_eq
  have hhead'' : (hashless code).lines[6]? = some d''.head := hd'' ▸ d''.head_eq
  have hindent : ((hashless code).lines[2]?).map indentation =
      ((hashless code).lines[6]?).map indentation := by decide
  rw [hhead, hhead''] at hindent
  refine ⟨d, d', d'', hfunctions, by rw [hd, hd', hd''], ?_⟩
  exact hdisjoint d d'' (by rw [hd, hd'']; decide) (Option.some.inj hindent)

end ContractAudit.Catalog.Vyper
