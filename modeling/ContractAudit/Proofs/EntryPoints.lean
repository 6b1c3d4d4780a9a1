import ContractAudit.Proofs.BlockLocality
import Mathlib.Order.Bounds.Basic

/-!
# Which lines are taken for entry points

The scan for entry points goes down the lines once, waits for a block that an attribute has
announced, and counts the braces of a block that it is in. `Outside` and `Inside` say where blocks
stand without that state. The entry points are the functions inside of blocks, and the first line of
code below each attribute outside of them. That line need not declare a function: another attribute
is taken for the entry point, and the function below the two is missed.
-/
namespace ContractAudit.Catalog.Cairo

open Source

/-! ## Blocks of entry points -/

structure NextCode (lines : List Text) (i k : Nat) : Prop where
  lt : i < k
  lt_length : k < lines.length
  blank : ∀ j, i < j → j < k → Text.isBlankText (lineAt lines j) = true
  inked : Text.isBlankText (lineAt lines k) = false

/-- The attribute on line `i` belongs to a block with its header on line `h`. -/
structure Announces (lines : List Text) (i h : Nat) : Prop where
  marked : externalAttribute.occursIn (lineAt lines i) = true
  next : NextCode lines i h
  impl : implWord.occursIn (lineAt lines h) = true

def balanceFrom (lines : List Text) (h n : Nat) : Int :=
  braceBalance ((lines.drop h).take (n - h)).flatten

def ClosesAt (lines : List Text) (h e : Nat) : Prop :=
  balanceFrom lines h (e + 1) ≤ 0 ∧ '}' ∈ lineAt lines e

instance (lines : List Text) (h e : Nat) : Decidable (ClosesAt lines h e) :=
  inferInstanceAs (Decidable (_ ∧ _))

/-- Line `n` belongs to no block. A block begins below the attribute that announces it and ends with
the first line below its header that closes its braces. -/
inductive Outside (lines : List Text) : Nat → Prop
  | top : Outside lines 0
  | line {n : Nat} (hn : Outside lines n) (hplain : ∀ h, ¬ Announces lines n h) :
      Outside lines (n + 1)
  | block {n h e : Nat} (hn : Outside lines n) (hblock : Announces lines n h)
      (hend : IsLeast {e | h < e ∧ ClosesAt lines h e} e) : Outside lines (e + 1)

structure Inside (lines : List Text) (h n : Nat) : Prop where
  announced : ∃ i, Outside lines i ∧ Announces lines i h
  lt : h < n
  goes_on : ∀ e, h < e → e < n → ¬ ClosesAt lines h e

structure Reveals (lines : List Text) (i k : Nat) : Prop where
  outside : Outside lines i
  marked : externalAttribute.occursIn (lineAt lines i) = true
  next : NextCode lines i k
  noImpl : implWord.occursIn (lineAt lines k) = false

/-! ## Lines -/

section Lines

variable {lines : List Text} {i k : Nat}

theorem drop_eq_lineAt_cons (h : i < lines.length) :
    lines.drop i = lineAt lines i :: lines.drop (i + 1) := by
  rw [List.drop_eq_getElem_cons h, lineAt, List.getD_eq_getElem?_getD, List.getElem?_eq_getElem h,
    Option.getD_some]

theorem NextCode.unique {k' : Nat} (h : NextCode lines i k) (h' : NextCode lines i k') :
    k = k' := by
  rcases Nat.lt_trichotomy k k' with hlt | rfl | hlt
  · exact absurd (h'.blank k h.lt hlt) (by simp [h.inked])
  · rfl
  · exact absurd (h.blank k' h'.lt hlt) (by simp [h'.inked])

theorem nextCode?_eq_some_iff {i k : Nat} {line : Text} :
    nextCode? i (lines.drop i) = some (k, line) ↔
      (i ≤ k ∧ k < lines.length ∧ (∀ j, i ≤ j → j < k → Text.isBlankText (lineAt lines j) = true) ∧
        Text.isBlankText (lineAt lines k) = false) ∧ line = lineAt lines k := by
  induction hm : lines.length - i generalizing i with
  | zero =>
    rw [List.drop_eq_nil_of_le (by omega)]
    simp only [nextCode?, reduceCtorEq, false_iff]
    rintro ⟨⟨hle, hlt, -⟩, -⟩
    omega
  | succ m ih =>
    rw [drop_eq_lineAt_cons (by omega), nextCode?]
    split
    · rename_i hblank
      rw [ih (by omega)]
      refine and_congr_left fun _ => ⟨?_, ?_⟩
      · rintro ⟨hle, hlt, hblanks, hink⟩
        refine ⟨by omega, hlt, fun j hij hjk => ?_, hink⟩
        rcases Nat.eq_or_lt_of_le hij with rfl | hij
        · exact hblank
        · exact hblanks j hij hjk
      · rintro ⟨hle, hlt, hblanks, hink⟩
        have hne : i ≠ k := by
          rintro rfl
          rw [hblank] at hink
          exact Bool.false_ne_true hink.symm
        exact ⟨by omega, hlt, fun j hij => hblanks j (by omega), hink⟩
    · rename_i hink
      have hink : Text.isBlankText (lineAt lines i) = false := by simpa using hink
      rw [Option.some.injEq, Prod.mk.injEq]
      constructor
      · rintro ⟨rfl, rfl⟩
        exact ⟨⟨Nat.le_refl _, by omega, fun j hij hji => by omega, hink⟩, rfl⟩
      · rintro ⟨⟨hle, -, hblanks, -⟩, rfl⟩
        obtain rfl : i = k := by
          by_contra hne
          have := hblanks i (Nat.le_refl _) (by omega)
          rw [hink] at this
          exact Bool.false_ne_true this
        exact ⟨rfl, rfl⟩

theorem nextCode_iff {line : Text} :
    nextCode? (i + 1) (lines.drop (i + 1)) = some (k, line) ↔
      NextCode lines i k ∧ line = lineAt lines k := by
  rw [nextCode?_eq_some_iff]
  refine and_congr_left fun _ => ⟨?_, ?_⟩
  · rintro ⟨hle, hlt, hblank, hink⟩
    exact ⟨hle, hlt, hblank, hink⟩
  · rintro ⟨hlt, hlength, hblank, hink⟩
    exact ⟨hlt, hlength, hblank, hink⟩

theorem not_blank_of_occursIn {p : Pattern} (hp : p.inked = true) {line : Text}
    (h : p.occursIn line = true) : ¬ Text.isBlankText line = true := by
  intro hblank
  obtain ⟨c, hc, hink⟩ := Pattern.exists_ink_of_occursIn hp h
  rw [Text.isBlankText, List.all_eq_true] at hblank
  rw [hblank c hc] at hink
  exact Bool.false_ne_true hink.symm

end Lines

/-! ## What a line does -/

section Step

variable {lines : List Text} {n : Nat} (state : EntryScan)

theorem mem_stepOutside_iff {k : Nat} :
    k ∈ (stepOutside state n (lineAt lines n) (lines.drop (n + 1))).2 ↔
      externalAttribute.occursIn (lineAt lines n) = true ∧ NextCode lines n k ∧
        implWord.occursIn (lineAt lines k) = false := by
  unfold stepOutside
  split
  · rename_i hmarked
    rw [and_iff_right hmarked]
    split
    · rename_i hnone
      simp only [List.not_mem_nil, false_iff]
      rintro ⟨hnext, -⟩
      rw [nextCode_iff.mpr ⟨hnext, rfl⟩] at hnone
      exact Option.some_ne_none _ hnone
    · rename_i following next hsome
      obtain ⟨hnext, rfl⟩ := nextCode_iff.mp hsome
      split
      · rename_i himpl
        simp only [List.not_mem_nil, false_iff]
        rintro ⟨hnext', hno⟩
        rw [hnext'.unique hnext, himpl] at hno
        exact Bool.false_ne_true hno.symm
      · rename_i himpl
        rw [List.mem_singleton]
        constructor
        · rintro rfl
          exact ⟨hnext, by simpa using himpl⟩
        · rintro ⟨hnext', -⟩
          exact hnext'.unique hnext
  · rename_i hmarked
    simp only [List.not_mem_nil, false_iff]
    rintro ⟨hmarked', -⟩
    exact hmarked hmarked'

theorem stepOutside_of_announces {h : Nat} (hblock : Announces lines n h) :
    (stepOutside state n (lineAt lines n) (lines.drop (n + 1))).1 = .awaitingBlock := by
  simp only [stepOutside, hblock.marked, if_true, nextCode_iff.mpr ⟨hblock.next, rfl⟩, hblock.impl]

theorem stepOutside_of_plain (hplain : ∀ h, ¬ Announces lines n h) :
    (stepOutside state n (lineAt lines n) (lines.drop (n + 1))).1 = state := by
  unfold stepOutside
  split
  · rename_i hmarked
    split
    · rfl
    · rename_i following next hsome
      obtain ⟨hnext, rfl⟩ := nextCode_iff.mp hsome
      split
      · rename_i himpl
        exact absurd ⟨hmarked, hnext, himpl⟩ (hplain following)
      · rfl
  · rfl

theorem entryStep_awaitingBlock_of_blank {index : Nat} {line : Text} {rest : List Text}
    (h : Text.isBlankText line = true) :
    entryStep .awaitingBlock index line rest = (.awaitingBlock, []) := by
  have himpl : ¬ implWord.occursIn line = true := fun hoccurs =>
    not_blank_of_occursIn (by decide) hoccurs h
  have hmarked : ¬ externalAttribute.occursIn line = true := fun hoccurs =>
    not_blank_of_occursIn (by decide) hoccurs h
  simp [entryStep, himpl, stepOutside, hmarked]

end Step

/-! ## Runs -/

def scanAt (lines : List Text) : Nat → EntryScan
  | 0 => .outside
  | n + 1 => (entryStep (scanAt lines n) n (lineAt lines n) (lines.drop (n + 1))).1

section Run

variable {lines : List Text}

theorem mem_entryPointsFrom_iff {i k : Nat} :
    k ∈ entryPointsFrom (scanAt lines i) i (lines.drop i) ↔
      ∃ n, i ≤ n ∧ n < lines.length ∧
        k ∈ (entryStep (scanAt lines n) n (lineAt lines n) (lines.drop (n + 1))).2 := by
  induction hm : lines.length - i generalizing i with
  | zero =>
    rw [List.drop_eq_nil_of_le (by omega)]
    simp only [entryPointsFrom, List.not_mem_nil, false_iff]
    rintro ⟨n, hle, hlt, -⟩
    omega
  | succ m ih =>
    have hstep : entryPointsFrom (scanAt lines i) i (lineAt lines i :: lines.drop (i + 1)) =
        (entryStep (scanAt lines i) i (lineAt lines i) (lines.drop (i + 1))).2 ++
          entryPointsFrom (scanAt lines (i + 1)) (i + 1) (lines.drop (i + 1)) := rfl
    rw [drop_eq_lineAt_cons (by omega), hstep, List.mem_append, ih (by omega)]
    constructor
    · rintro (hhere | ⟨n, hle, hlt, hlater⟩)
      · exact ⟨i, Nat.le_refl _, by omega, hhere⟩
      · exact ⟨n, by omega, hlt, hlater⟩
    · rintro ⟨n, hle, hlt, hmem⟩
      rcases Nat.eq_or_lt_of_le hle with rfl | hle
      · exact .inl hmem
      · exact .inr ⟨n, hle, hlt, hmem⟩

theorem balanceFrom_succ {h n : Nat} (hle : h ≤ n) :
    balanceFrom lines h (n + 1) = balanceFrom lines h n + braceBalance (lineAt lines n) := by
  have hlast : ((lines.drop h).take (n + 1 - h)).flatten =
      ((lines.drop h).take (n - h)).flatten ++ lineAt lines n := by
    rw [show n + 1 - h = n - h + 1 by omega, List.take_add_one, List.flatten_append,
      List.getElem?_drop, show h + (n - h) = n by omega, lineAt, List.getD_eq_getElem?_getD]
    cases lines[n]? <;> simp
  rw [balanceFrom, hlast, braceBalance_append, balanceFrom]

theorem entryStep_inBlock {h n : Nat} (hle : h ≤ n) (rest : List Text) :
    (entryStep (.inBlock (balanceFrom lines h n)) n (lineAt lines n) rest).1 =
      if ClosesAt lines h n then .outside else .inBlock (balanceFrom lines h (n + 1)) := by
  have hcloses :
      (decide (balanceFrom lines h (n + 1) ≤ 0) && (lineAt lines n).contains '}') = true ↔
        ClosesAt lines h n := by
    simp [ClosesAt]
  simp only [entryStep, ← balanceFrom_succ hle, hcloses]

/-- What is known of line `n` from where the scan is before it. -/
def EntryScan.Describes (lines : List Text) (n : Nat) : EntryScan → Prop
  | .outside => Outside lines n
  | .awaitingBlock => ∃ i h, Outside lines i ∧ Announces lines i h ∧ i < n ∧ n ≤ h
  | .inBlock depth => ∃ h, Inside lines h n ∧ depth = balanceFrom lines h n

theorem describes_step {state : EntryScan} {n : Nat} (hstate : state.Describes lines n) :
    (entryStep state n (lineAt lines n) (lines.drop (n + 1))).1.Describes lines (n + 1) := by
  cases state with
  | outside =>
    by_cases hblock : ∃ h, Announces lines n h
    · obtain ⟨h, hblock⟩ := hblock
      rw [entryStep, stepOutside_of_announces _ hblock]
      exact ⟨n, h, hstate, hblock, Nat.lt_succ_self n, hblock.next.lt⟩
    · rw [entryStep, stepOutside_of_plain _ (not_exists.mp hblock)]
      exact .line hstate (not_exists.mp hblock)
  | awaitingBlock =>
    obtain ⟨i, h, hi, hblock, hin, hnh⟩ := hstate
    rcases Nat.eq_or_lt_of_le hnh with rfl | hnh
    · -- The header has come.
      rw [entryStep, if_pos hblock.impl]
      refine ⟨n, ⟨⟨i, hi, hblock⟩, Nat.lt_succ_self n, fun e hlt hgt => by omega⟩, ?_⟩
      rw [balanceFrom_succ (Nat.le_refl n), balanceFrom, Nat.sub_self]
      simp [braceBalance]
    · rw [entryStep_awaitingBlock_of_blank (hblock.next.blank n hin hnh)]
      exact ⟨i, h, hi, hblock, by omega, hnh⟩
  | inBlock depth =>
    obtain ⟨h, hinside, rfl⟩ := hstate
    obtain ⟨⟨i, hi, hblock⟩, hlt, hgoes⟩ := hinside
    rw [entryStep_inBlock (Nat.le_of_lt hlt)]
    split
    · rename_i hcloses
      refine .block hi hblock ⟨⟨hlt, hcloses⟩, ?_⟩
      rintro e ⟨hhe, hecloses⟩
      by_contra hen
      exact hgoes e hhe (by omega) hecloses
    · rename_i hcloses
      refine ⟨h, ⟨⟨i, hi, hblock⟩, by omega, fun e hhe hen => ?_⟩, rfl⟩
      rcases Nat.eq_or_lt_of_le (Nat.le_of_lt_succ hen) with rfl | hen
      · exact hcloses
      · exact hgoes e hhe hen

theorem describes_scanAt (lines : List Text) (n : Nat) : (scanAt lines n).Describes lines n := by
  induction n with
  | zero => exact .top
  | succ n ih => exact describes_step ih

theorem scanAt_of_announces {i h n : Nat} (hi : scanAt lines i = .outside)
    (hblock : Announces lines i h) (hin : i < n) (hnh : n ≤ h) :
    scanAt lines n = .awaitingBlock := by
  induction n, hin using Nat.le_induction with
  | base => rw [Nat.succ_eq_add_one, scanAt, hi, entryStep, stepOutside_of_announces _ hblock]
  | succ n hin ih =>
    rw [scanAt, ih (by omega), entryStep_awaitingBlock_of_blank (hblock.next.blank n hin hnh)]

theorem scanAt_of_goes_on {i h n : Nat} (hi : scanAt lines i = .outside)
    (hblock : Announces lines i h) (hhn : h < n)
    (hgoes : ∀ e, h < e → e < n → ¬ ClosesAt lines h e) :
    scanAt lines n = .inBlock (balanceFrom lines h n) := by
  induction n, hhn using Nat.le_induction with
  | base =>
    rw [Nat.succ_eq_add_one, scanAt, scanAt_of_announces hi hblock hblock.next.lt (Nat.le_refl h),
      entryStep, if_pos hblock.impl, balanceFrom_succ (Nat.le_refl h), balanceFrom, Nat.sub_self]
    simp [braceBalance]
  | succ n hhn ih =>
    have hn : ¬ ClosesAt lines h n := hgoes n hhn (Nat.lt_succ_self n)
    rw [scanAt, ih fun e hhe hen => hgoes e hhe (by omega), entryStep_inBlock (Nat.le_of_lt hhn),
      if_neg hn]

theorem scanAt_of_outside {n : Nat} (h : Outside lines n) : scanAt lines n = .outside := by
  induction h with
  | top => rfl
  | line hn hplain ih => rw [scanAt, ih, entryStep, stepOutside_of_plain _ hplain]
  | @block n h e hn hblock hend ih =>
    obtain ⟨⟨hhe, hcloses⟩, hleast⟩ := hend
    have hgoes : ∀ e', h < e' → e' < e → ¬ ClosesAt lines h e' := by
      intro e' hhe' hlt hcloses'
      have := hleast ⟨hhe', hcloses'⟩
      omega
    rw [scanAt, scanAt_of_goes_on ih hblock hhe hgoes, entryStep_inBlock (Nat.le_of_lt hhe),
      if_pos hcloses]

theorem scanAt_of_inside {h n : Nat} (hinside : Inside lines h n) :
    scanAt lines n = .inBlock (balanceFrom lines h n) := by
  obtain ⟨⟨i, hi, hblock⟩, hlt, hgoes⟩ := hinside
  exact scanAt_of_goes_on (scanAt_of_outside hi) hblock hlt hgoes

/-! ## Entry points -/

theorem lt_length_of_occursIn {p : Pattern} (hp : p.inked = true) {n : Nat}
    (h : p.occursIn (lineAt lines n) = true) : n < lines.length := by
  by_contra hge
  have hline : lineAt lines n = [] := by
    rw [lineAt, List.getD_eq_getElem?_getD, List.getElem?_eq_none (by omega), Option.getD_none]
  rw [hline] at h
  exact not_blank_of_occursIn hp h rfl

theorem mem_entryStep_iff {n k : Nat} :
    k ∈ (entryStep (scanAt lines n) n (lineAt lines n) (lines.drop (n + 1))).2 ↔
      ((∃ h, Inside lines h n) ∧ functionDeclaration.occursIn (lineAt lines n) = true) ∧ k = n ∨
        Reveals lines n k := by
  have hstate := describes_scanAt lines n
  have hinside {h : Nat} (hin : Inside lines h n) := scanAt_of_inside hin
  have houtside (hout : Outside lines n) := scanAt_of_outside hout
  cases hscan : scanAt lines n with
  | outside =>
    rw [hscan] at hstate hinside
    rw [entryStep, mem_stepOutside_iff]
    constructor
    · rintro ⟨hmarked, hnext, hno⟩
      exact .inr ⟨hstate, hmarked, hnext, hno⟩
    · rintro (⟨⟨⟨h, hin⟩, -⟩, -⟩ | ⟨-, hmarked, hnext, hno⟩)
      · exact absurd (hinside hin) (by simp)
      · exact ⟨hmarked, hnext, hno⟩
  | awaitingBlock =>
    rw [hscan] at hstate hinside houtside
    have hnothing : (entryStep .awaitingBlock n (lineAt lines n) (lines.drop (n + 1))).2 = [] := by
      obtain ⟨i, h, -, hblock, hin, hnh⟩ := hstate
      rcases Nat.eq_or_lt_of_le hnh with rfl | hnh
      · rw [entryStep, if_pos hblock.impl]
      · rw [entryStep_awaitingBlock_of_blank (hblock.next.blank n hin hnh)]
    rw [hnothing, List.mem_nil_iff, false_iff]
    rintro (⟨⟨⟨h, hin⟩, -⟩, -⟩ | ⟨hout, -⟩)
    · exact absurd (hinside hin) (by simp)
    · exact absurd (houtside hout) (by simp)
  | inBlock depth =>
    rw [hscan] at hstate houtside
    obtain ⟨h, hin, -⟩ := hstate
    have hfound : (entryStep (.inBlock depth) n (lineAt lines n) (lines.drop (n + 1))).2 =
        if functionDeclaration.occursIn (lineAt lines n) then [n] else [] := rfl
    rw [hfound, List.mem_ite_nil_right, List.mem_singleton]
    constructor
    · rintro ⟨hfunction, rfl⟩
      exact .inl ⟨⟨⟨h, hin⟩, hfunction⟩, rfl⟩
    · rintro (⟨⟨-, hfunction⟩, rfl⟩ | ⟨hout, -⟩)
      · exact ⟨hfunction, rfl⟩
      · exact absurd (houtside hout) (by simp)

theorem mem_entryPoints_iff {k : Nat} :
    k ∈ entryPoints lines ↔
      (∃ h, Inside lines h k) ∧ functionDeclaration.occursIn (lineAt lines k) = true ∨
        ∃ i, Reveals lines i k := by
  have hall : entryPoints lines = entryPointsFrom (scanAt lines 0) 0 (lines.drop 0) := rfl
  rw [hall, mem_entryPointsFrom_iff]
  constructor
  · rintro ⟨n, -, -, hstep⟩
    rcases mem_entryStep_iff.mp hstep with ⟨hfunction, rfl⟩ | hreveals
    · exact .inl hfunction
    · exact .inr ⟨n, hreveals⟩
  · rintro (hfunction | ⟨i, hreveals⟩)
    · have hlt : k < lines.length := lt_length_of_occursIn (by decide) hfunction.2
      exact ⟨k, Nat.zero_le k, hlt, mem_entryStep_iff.mpr (.inl ⟨hfunction, rfl⟩)⟩
    · have hlt : i < lines.length := lt_length_of_occursIn (by decide) hreveals.marked
      exact ⟨i, Nat.zero_le i, hlt, mem_entryStep_iff.mpr (.inr hreveals)⟩

theorem Outside.of_no_impl {i k n : Nat} (hi : Outside lines i)
    (hk : functionDeclaration.occursIn (lineAt lines k) = true)
    (hno : ∀ j, i < j → j ≤ k → implWord.occursIn (lineAt lines j) = false) (hin : i ≤ n)
    (hnk : n ≤ k) : Outside lines n := by
  induction n, hin using Nat.le_induction with
  | base => exact hi
  | succ n hin ih =>
    refine .line (ih (by omega)) fun h hblock => ?_
    have hhk : h ≤ k := by
      by_contra hlt
      exact not_blank_of_occursIn (by decide) hk (hblock.next.blank k hnk (by omega))
    have hih : i < h := Nat.lt_of_le_of_lt hin hblock.next.lt
    have himpl := hno h hih hhk
    rw [hblock.impl] at himpl
    exact Bool.false_ne_true himpl.symm

end Run

/-- Below an attribute on line `i`, outside of blocks, line `k` is the first that is neither blank
nor an attribute, and it declares a function and no block. -/
structure Annotated (lines : List Text) (i k : Nat) : Prop where
  outside : Outside lines i
  marked : externalAttribute.occursIn (lineAt lines i) = true
  lt : i < k
  passed : ∀ j, i < j → j < k → Text.isBlankText (lineAt lines j) = true ∨
    (lineAt lines j).trimStart.startsWith ['#', '['] = true
  unmarked : (lineAt lines k).trimStart.startsWith ['#', '['] = false
  declares : functionDeclaration.occursIn (lineAt lines k) = true
  noImpl : implWord.occursIn (lineAt lines k) = false

theorem Annotated.mem_entryPoints_iff {lines : List Text} {i k : Nat} (hk : Annotated lines i k)
    (hno : ∀ j, i < j → j < k → implWord.occursIn (lineAt lines j) = false) :
    k ∈ entryPoints lines ↔
      ∃ j, i ≤ j ∧ externalAttribute.occursIn (lineAt lines j) = true ∧ NextCode lines j k := by
  have hno' : ∀ j, i < j → j ≤ k → implWord.occursIn (lineAt lines j) = false := by
    intro j hij hjk
    rcases Nat.eq_or_lt_of_le hjk with rfl | hjk
    · exact hk.noImpl
    · exact hno j hij hjk
  rw [Cairo.mem_entryPoints_iff]
  constructor
  · rintro (⟨⟨h, hinside⟩, -⟩ | ⟨j, hreveals⟩)
    · have houtside := scanAt_of_outside
        (hk.outside.of_no_impl hk.declares hno' (Nat.le_of_lt hk.lt) (Nat.le_refl k))
      rw [scanAt_of_inside hinside] at houtside
      exact absurd houtside (by simp)
    · refine ⟨j, ?_, hreveals.marked, hreveals.next⟩
      by_contra hlt
      exact not_blank_of_occursIn (by decide) hk.marked (hreveals.next.blank i (by omega) hk.lt)
  · rintro ⟨j, hij, hmarked, hnext⟩
    have houtside := hk.outside.of_no_impl hk.declares hno' hij (Nat.le_of_lt hnext.lt)
    exact .inr ⟨j, houtside, hmarked, hnext, hk.noImpl⟩

/-- The entry points are the functions inside of blocks and the lines that attributes reveal. So a
function below an attribute is found just when the last line above it that is not blank is such an
attribute (a header of a block apart), and all entry points are functions just when all lines that
attributes reveal are. -/
theorem entryPoints_annotated_iff (lines : List Text) :
    (∀ k, k ∈ entryPoints lines ↔
      (∃ h, Inside lines h k) ∧ functionDeclaration.occursIn (lineAt lines k) = true ∨
        ∃ i, Reveals lines i k) ∧
    (∀ i k, Annotated lines i k →
      (∀ j, i < j → j < k → implWord.occursIn (lineAt lines j) = false) →
      (k ∈ entryPoints lines ↔
        ∃ j, i ≤ j ∧ externalAttribute.occursIn (lineAt lines j) = true ∧ NextCode lines j k)) ∧
    ((∀ k ∈ entryPoints lines, functionDeclaration.occursIn (lineAt lines k) = true) ↔
      ∀ i k, Reveals lines i k → functionDeclaration.occursIn (lineAt lines k) = true) := by
  refine ⟨fun k => mem_entryPoints_iff, fun i k hk hno => hk.mem_entryPoints_iff hno, ?_⟩
  constructor
  · intro hall i k hreveals
    exact hall k (mem_entryPoints_iff.mpr (.inr ⟨i, hreveals⟩))
  · intro hall k hk
    rcases mem_entryPoints_iff.mp hk with ⟨-, hfunction⟩ | ⟨i, hreveals⟩
    · exact hfunction
    · exact hall i k hreveals

/-- Of two attributes the lower is taken for the entry point, and the function below is missed. -/
theorem entryPoints_annotated_iff_stacked :
    let lines := ["#[external(v0)]", "#[inline]", "fn withdraw() \x7b", "\x7d"].map String.toList
    Annotated lines 0 2 ∧ 2 ∉ entryPoints lines ∧
      1 ∈ entryPoints lines ∧ functionDeclaration.occursIn (lineAt lines 1) = false := by
  intro lines
  have hbetween {j : Nat} (hj : 0 < j) (hj' : j < 2) : j = 1 := by omega
  have hannotated : Annotated lines 0 2 :=
    { outside := .top
      marked := by decide
      lt := by decide
      passed := by
        intro j hj hj'
        obtain rfl := hbetween hj hj'
        exact .inr (by decide)
      unmarked := by decide
      declares := by decide
      noImpl := by decide }
  obtain ⟨hall, hannotations, -⟩ := entryPoints_annotated_iff lines
  have hmissed : 2 ∉ entryPoints lines := by
    have hno : ∀ j, 0 < j → j < 2 → implWord.occursIn (lineAt lines j) = false := by
      intro j hj hj'
      obtain rfl := hbetween hj hj'
      decide
    rw [hannotations 0 2 hannotated hno]
    rintro ⟨j, -, hmarked, hnext⟩
    rcases Nat.eq_zero_or_pos j with rfl | hj
    · exact absurd (hnext.blank 1 (by decide) (by decide)) (by decide)
    · obtain rfl := hbetween hj hnext.lt
      exact absurd hmarked (by decide)
  have hnext : NextCode lines 0 1 := ⟨by decide, by decide, fun j hj hj' => by omega, by decide⟩
  have hfound : 1 ∈ entryPoints lines :=
    (hall 1).mpr (.inr ⟨0, .top, hannotated.marked, hnext, by decide⟩)
  exact ⟨hannotated, hmissed, hfound, by decide⟩

end ContractAudit.Catalog.Cairo
