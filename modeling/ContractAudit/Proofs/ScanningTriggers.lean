import ContractAudit.Proofs.CatalogComposition

/-!
# What the scanning triggers look for

Three triggers go down a list of lines once and remember what they have passed: whether Ether was
sent, whether a function is open and has called out, which storage maps were declared. Each fires
just when certain lines exist, whatever the scan has remembered when it meets them.

The order of the tests on one line differs. A Vyper line is looked at as a write before it is looked
at as a transfer, so the two have to stand on different lines. A Cairo line may declare a function,
call out and write at once.
-/
namespace ContractAudit

/-- The trigger gives an answer, and it is whether `condition` holds. -/
def Detector.Decides (d : Detector) (code : Text) (condition : Prop) : Prop :=
  ∃ fired, d.trigger code = .ok fired ∧ (fired = true ↔ condition)

theorem Catalog.exists_decides {dialect : Dialect} {id : String} {test : Text → Bool}
    (hone : ((Catalog.of dialect).filter fun d => d.id == id).map (·.trigger) = [.when test])
    {code : Text} {condition : Prop} (h : test code = true ↔ condition) :
    ∃ d ∈ Catalog.of dialect, d.id = id ∧ d.Decides code condition := by
  have hmem : Trigger.when test ∈
      ((Catalog.of dialect).filter fun d => d.id == id).map (·.trigger) :=
    hone ▸ List.mem_singleton_self _
  obtain ⟨d, hd, htrigger⟩ := List.mem_map.mp hmem
  obtain ⟨hd, hid⟩ := List.mem_filter.mp hd
  exact ⟨d, hd, eq_of_beq hid, test code, congrFun htrigger code, h⟩

def HasLine (lines : List Text) (test : Text → Bool) (i : Nat) : Prop :=
  ∃ line ∈ lines[i]?, test line = true

section HasLine

variable {lines past rest : List Text} {line : Text} {test : Text → Bool} {i : Nat}

theorem HasLine.lt (h : HasLine lines test i) : i < lines.length := by
  obtain ⟨line, hline, -⟩ := h
  exact (List.getElem?_eq_some_iff.mp hline).1

theorem hasLine_tail : HasLine lines.tail test i ↔ HasLine lines test (i + 1) := by
  rw [HasLine, HasLine, List.getElem?_tail]

theorem hasLine_append_of_lt (hi : i < past.length) :
    HasLine (past ++ rest) test i ↔ HasLine past test i := by
  rw [HasLine, HasLine, List.getElem?_append_left hi]

theorem hasLine_append_length :
    HasLine (past ++ line :: rest) test past.length ↔ test line = true := by
  rw [HasLine, List.getElem?_append_right (Nat.le_refl _), Nat.sub_self]
  simp

theorem hasLine_concat :
    HasLine (past ++ [line]) test i ↔ HasLine past test i ∨ i = past.length ∧ test line = true := by
  rcases Nat.lt_trichotomy i past.length with hlt | rfl | hgt
  · rw [hasLine_append_of_lt hlt, or_iff_left fun h => Nat.ne_of_lt hlt h.1]
  · rw [hasLine_append_length, or_iff_right fun h => Nat.lt_irrefl _ h.lt]
    simp
  · have hpast : ¬ HasLine past test i := fun h => Nat.lt_asymm hgt h.lt
    have hall : ¬ HasLine (past ++ [line]) test i := by
      intro h
      have hlength := h.lt
      rw [List.length_append, List.length_singleton] at hlength
      omega
    rw [iff_false_left hall, not_or]
    exact ⟨hpast, fun h => Nat.ne_of_gt hgt h.1⟩

end HasLine

theorem exists_ge_iff {found : Nat → Prop} {n : Nat} :
    (∃ j, n ≤ j ∧ found j) ↔ found n ∨ ∃ j, n + 1 ≤ j ∧ found j := by
  constructor
  · rintro ⟨j, hj, hfound⟩
    rcases Nat.eq_or_lt_of_le hj with rfl | hlt
    · exact .inl hfound
    · exact .inr ⟨j, hlt, hfound⟩
  · rintro (hfound | ⟨j, hj, hfound⟩)
    · exact ⟨n, Nat.le_refl n, hfound⟩
    · exact ⟨j, Nat.le_of_succ_le hj, hfound⟩

/-! ## Transfers and writes -/

namespace Catalog.Vyper

structure WriteAfterTransfer (lines : List Text) (i j : Nat) : Prop where
  lt : i < j
  transfer : HasLine lines valueTransfer.occursIn i
  write : HasLine lines storageWrite.occursIn j

structure Remembers (past : List Text) (transferred : Bool) : Prop where
  transferred_iff : transferred = true ↔ ∃ i, HasLine past valueTransfer.occursIn i

variable {past : List Text} {transferred : Bool}

theorem remembers_nil : Remembers [] false where
  transferred_iff := iff_of_false Bool.false_ne_true fun ⟨_, h⟩ => Nat.not_lt_zero _ h.lt

theorem Remembers.step (h : Remembers past transferred) (line : Text) :
    Remembers (past ++ [line]) (transferred || valueTransfer.occursIn line) where
  transferred_iff := by
    simp only [Bool.or_eq_true, h.transferred_iff, hasLine_concat, exists_or, exists_eq_left]

theorem Remembers.writes_iff (h : Remembers past transferred) (line : Text) (rest : List Text) :
    (transferred = true ∧ storageWrite.occursIn line = true) ↔
      ∃ i, WriteAfterTransfer (past ++ line :: rest) i past.length := by
  rw [h.transferred_iff]
  constructor
  · rintro ⟨⟨i, htransfer⟩, hwrite⟩
    have hi := htransfer.lt
    exact ⟨i, hi, (hasLine_append_of_lt hi).mpr htransfer, hasLine_append_length.mpr hwrite⟩
  · rintro ⟨i, hi, htransfer, hwrite⟩
    exact ⟨⟨i, (hasLine_append_of_lt hi).mp htransfer⟩, hasLine_append_length.mp hwrite⟩

theorem Remembers.writesAfterTransfer_iff (h : Remembers past transferred) (rest : List Text) :
    writesAfterTransfer transferred rest = true ↔
      ∃ j, past.length ≤ j ∧ ∃ i, WriteAfterTransfer (past ++ rest) i j := by
  induction rest generalizing past transferred with
  | nil =>
    rw [writesAfterTransfer, List.append_nil]
    refine iff_of_false Bool.false_ne_true ?_
    rintro ⟨j, hj, i, hpair⟩
    exact absurd hpair.write.lt (Nat.not_lt.mpr hj)
  | cons line rest ih =>
    have hrest := ih (h.step line)
    rw [List.append_assoc, List.singleton_append, List.length_append, List.length_singleton]
      at hrest
    rw [writesAfterTransfer, Bool.or_eq_true, Bool.and_eq_true, h.writes_iff line rest, hrest,
      exists_ge_iff (n := past.length)]

theorem hasReentrancy_iff (code : Text) :
    hasReentrancy code = true ↔
      ∃ f ∈ functions code,
        (∀ decorator ∈ f.decorators, decorator.startsWith "@nonreentrant".toList = false) ∧
          ∃ i j, 1 ≤ i ∧ WriteAfterTransfer f.lines i j := by
  have hlines : ∀ f : Function, writesAfterTransfer false f.lines.tail = true ↔
      ∃ i j, 1 ≤ i ∧ WriteAfterTransfer f.lines i j := by
    intro f
    rw [remembers_nil.writesAfterTransfer_iff, List.nil_append]
    constructor
    · rintro ⟨j, -, i, hlt, htransfer, hwrite⟩
      exact ⟨i + 1, j + 1, Nat.le_add_left 1 i, Nat.succ_lt_succ hlt, hasLine_tail.mp htransfer,
        hasLine_tail.mp hwrite⟩
    · rintro ⟨i, j, hi, hlt, htransfer, hwrite⟩
      obtain ⟨i, rfl⟩ := Nat.exists_eq_add_of_le' hi
      obtain ⟨j, rfl⟩ := Nat.exists_eq_add_of_le' (Nat.succ_le_of_lt (Nat.zero_lt_of_lt hlt))
      exact ⟨j, Nat.zero_le j, i, Nat.lt_of_succ_lt_succ hlt, hasLine_tail.mpr htransfer,
        hasLine_tail.mpr hwrite⟩
  simp only [hasReentrancy, isLocked, List.any_eq_true, Bool.and_eq_true, Bool.not_eq_true',
    List.any_eq_false, Bool.not_eq_true, hlines]

end Catalog.Vyper

/-! ## Calls and writes -/

namespace Catalog.Cairo

/-- Line `a` declares a function, which calls out on line `b` and writes to storage on line `c`; the
three may be one line. -/
structure WriteAfterCall (lines : List Text) (a b c : Nat) : Prop where
  le_call : a ≤ b
  call_le : b ≤ c
  declares : HasLine lines functionDeclaration.occursIn a
  same : ∀ i, a < i → i ≤ c → ¬ HasLine lines functionDeclaration.occursIn i
  call : HasLine lines externalCall.occursIn b
  write : HasLine lines (·.mentions ".write(") c

/-- The last function that the lines declare is declared on line `a`. -/
structure IsCurrent (past : List Text) (a : Nat) : Prop where
  declares : HasLine past functionDeclaration.occursIn a
  last : ∀ i, a < i → ¬ HasLine past functionDeclaration.occursIn i

structure Remembers (past : List Text) (inFunction called : Bool) : Prop where
  inFunction_iff : inFunction = true ↔ ∃ a, IsCurrent past a
  called_iff : called = true ↔
    ∃ a b, IsCurrent past a ∧ a ≤ b ∧ HasLine past externalCall.occursIn b

variable {past : List Text} {line : Text} {inFunction called : Bool}

theorem isCurrent_concat_of_declares (h : functionDeclaration.occursIn line = true) {a : Nat} :
    IsCurrent (past ++ [line]) a ↔ a = past.length := by
  constructor
  · rintro ⟨hdeclares, hlast⟩
    have hle : past.length ≤ a := by
      by_contra hlt
      exact hlast past.length (by omega) (hasLine_append_length.mpr h)
    have hlength := hdeclares.lt
    rw [List.length_append, List.length_singleton] at hlength
    omega
  · rintro rfl
    refine ⟨hasLine_append_length.mpr h, fun i hi hdeclares => ?_⟩
    have hlength := hdeclares.lt
    rw [List.length_append, List.length_singleton] at hlength
    omega

theorem isCurrent_concat_of_not_declares (h : functionDeclaration.occursIn line = false)
    {a : Nat} : IsCurrent (past ++ [line]) a ↔ IsCurrent past a := by
  have hsame : ∀ i, HasLine (past ++ [line]) functionDeclaration.occursIn i ↔
      HasLine past functionDeclaration.occursIn i := by
    intro i
    rw [hasLine_concat, h]
    simp
  constructor
  · rintro ⟨hdeclares, hlast⟩
    exact ⟨(hsame a).mp hdeclares, fun i hi => (hsame i).not.mp (hlast i hi)⟩
  · rintro ⟨hdeclares, hlast⟩
    exact ⟨(hsame a).mpr hdeclares, fun i hi => (hsame i).not.mpr (hlast i hi)⟩

theorem remembers_nil : Remembers [] false false where
  inFunction_iff := iff_of_false Bool.false_ne_true fun ⟨_, h⟩ => Nat.not_lt_zero _ h.declares.lt
  called_iff := iff_of_false Bool.false_ne_true fun ⟨_, _, _, _, h⟩ => Nat.not_lt_zero _ h.lt

theorem Remembers.step (h : Remembers past inFunction called) (line : Text) :
    Remembers (past ++ [line]) (inFunction || functionDeclaration.occursIn line)
      ((called && !functionDeclaration.occursIn line) ||
        ((inFunction || functionDeclaration.occursIn line) && externalCall.occursIn line)) := by
  cases hdeclares : functionDeclaration.occursIn line with
  | true =>
    refine ⟨by simp [isCurrent_concat_of_declares hdeclares], ?_⟩
    simp only [isCurrent_concat_of_declares hdeclares, hasLine_concat, Bool.not_true,
      Bool.and_false, Bool.false_or, Bool.or_true, Bool.true_and]
    constructor
    · intro hcall
      exact ⟨past.length, past.length, rfl, Nat.le_refl _, .inr ⟨rfl, hcall⟩⟩
    · rintro ⟨a, b, rfl, hle, hcall | ⟨-, hcall⟩⟩
      · exact absurd hcall.lt (Nat.not_lt.mpr hle)
      · exact hcall
  | false =>
    refine ⟨by simp [isCurrent_concat_of_not_declares hdeclares, h.inFunction_iff], ?_⟩
    simp only [isCurrent_concat_of_not_declares hdeclares, hasLine_concat, Bool.not_false,
      Bool.and_true, Bool.or_false, Bool.or_eq_true, Bool.and_eq_true, h.called_iff,
      h.inFunction_iff]
    constructor
    · rintro (⟨a, b, ha, hle, hcall⟩ | ⟨⟨a, ha⟩, hcall⟩)
      · exact ⟨a, b, ha, hle, .inl hcall⟩
      · exact ⟨a, past.length, ha, Nat.le_of_lt ha.declares.lt, .inr ⟨rfl, hcall⟩⟩
    · rintro ⟨a, b, ha, hle, hcall | ⟨-, hcall⟩⟩
      · exact .inl ⟨a, b, ha, hle, hcall⟩
      · exact .inr ⟨⟨a, ha⟩, hcall⟩

theorem writeAfterCall_length_iff {rest : List Text} {a b : Nat} :
    WriteAfterCall (past ++ line :: rest) a b past.length ↔
      (IsCurrent (past ++ [line]) a ∧ a ≤ b ∧ HasLine (past ++ [line]) externalCall.occursIn b) ∧
        line.mentions ".write(" = true := by
  have hsplit : past ++ line :: rest = (past ++ [line]) ++ rest := by simp
  have hlength : (past ++ [line]).length = past.length + 1 := by simp
  have hupto : ∀ {test : Text → Bool} {i : Nat}, i ≤ past.length →
      (HasLine (past ++ line :: rest) test i ↔ HasLine (past ++ [line]) test i) := by
    intro test i hi
    rw [hsplit, hasLine_append_of_lt (by omega)]
  constructor
  · rintro ⟨hab, hbc, hdeclares, hsame, hcall, hwrite⟩
    refine ⟨⟨⟨(hupto (by omega)).mp hdeclares, fun i hi hother => ?_⟩, hab, (hupto hbc).mp hcall⟩,
      hasLine_append_length.mp hwrite⟩
    have hle : i ≤ past.length := by
      have := hother.lt
      omega
    exact hsame i hi hle ((hupto hle).mpr hother)
  · rintro ⟨⟨⟨hdeclares, hlast⟩, hab, hcall⟩, hwrite⟩
    have hb : b ≤ past.length := by
      have := hcall.lt
      omega
    exact ⟨hab, hb, (hupto (by omega)).mpr hdeclares,
      fun i hi hle hother => hlast i hi ((hupto hle).mp hother), (hupto hb).mpr hcall,
      hasLine_append_length.mpr hwrite⟩

theorem Remembers.writesAfterCall_iff (h : Remembers past inFunction called) (rest : List Text) :
    writesAfterCall inFunction called rest = true ↔
      ∃ c, past.length ≤ c ∧ ∃ a b, WriteAfterCall (past ++ rest) a b c := by
  induction rest generalizing past inFunction called with
  | nil =>
    rw [writesAfterCall, List.append_nil]
    refine iff_of_false Bool.false_ne_true ?_
    rintro ⟨c, hc, a, b, hfound⟩
    exact absurd hfound.write.lt (Nat.not_lt.mpr hc)
  | cons line rest ih =>
    have hnext := h.step line
    have hrest := ih hnext
    rw [List.append_assoc, List.singleton_append, List.length_append, List.length_singleton]
      at hrest
    rw [writesAfterCall, Bool.or_eq_true, hrest, exists_ge_iff (n := past.length)]
    refine or_congr_left ?_
    simp only [writeAfterCall_length_iff, exists_and_right, ← hnext.called_iff, Bool.and_eq_true]
    refine and_congr_left fun _ => and_iff_right_of_imp fun hcalled => ?_
    obtain ⟨a, -, ha, -⟩ := hnext.called_iff.mp hcalled
    exact hnext.inFunction_iff.mpr ⟨a, ha⟩

theorem hasReentrancy_iff (code : Text) :
    hasReentrancy code = true ↔ ∃ a b c, WriteAfterCall (codeLines code) a b c := by
  rw [hasReentrancy, remembers_nil.writesAfterCall_iff, List.nil_append]
  constructor
  · rintro ⟨c, -, a, b, hfound⟩
    exact ⟨a, b, c, hfound⟩
  · rintro ⟨a, b, c, hfound⟩
    exact ⟨c, Nat.zero_le c, a, b, hfound⟩

/-! ## Storage maps -/

structure Collides (lines : List Text) (i j : Nat) : Prop where
  ne : i ≠ j
  same : ∃ name, (∃ line ∈ lines[i]?, storageMapOf? line = some name) ∧
    ∃ line ∈ lines[j]?, storageMapOf? line = some name

theorem Collides.symm {lines : List Text} {i j : Nat} (h : Collides lines i j) :
    Collides lines j i := by
  obtain ⟨hne, name, hi, hj⟩ := h
  exact ⟨hne.symm, name, hj, hi⟩

theorem repeats_iff (names : List Text) : repeats names = true ↔ ¬ names.Nodup := by
  induction names with
  | nil => simp [repeats]
  | cons name rest ih =>
    rw [repeats, Bool.or_eq_true, List.contains_iff_mem, ih, List.nodup_cons, not_and_or, not_not]

theorem nodup_storageMaps_iff (lines : List Text) :
    (lines.filterMap storageMapOf?).Nodup ↔ ∀ i j, ¬ Collides lines i j := by
  rw [List.Nodup, List.pairwise_filterMap, List.pairwise_iff_getElem]
  constructor
  · intro h
    have hbelow : ∀ i j, i < j → ¬ Collides lines i j := by
      rintro i j hlt ⟨-, name, ⟨line, hline, hname⟩, line', hline', hname'⟩
      obtain ⟨hi, rfl⟩ := List.getElem?_eq_some_iff.mp hline
      obtain ⟨hj, rfl⟩ := List.getElem?_eq_some_iff.mp hline'
      exact h i j hi hj hlt name hname name hname' rfl
    intro i j hcollides
    rcases Nat.lt_or_gt_of_ne hcollides.ne with hlt | hgt
    · exact hbelow i j hlt hcollides
    · exact hbelow j i hgt hcollides.symm
  · rintro h i j hi hj hlt name hname _ hname' rfl
    exact h i j ⟨Nat.ne_of_lt hlt, name, ⟨_, List.getElem?_eq_getElem hi, hname⟩,
      _, List.getElem?_eq_getElem hj, hname'⟩

theorem hasStorageCollision_iff (code : Text) :
    hasStorageCollision code = true ↔ ∃ i j, Collides (codeLines code) i j := by
  rw [hasStorageCollision, repeats_iff, nodup_storageMaps_iff]
  simp only [not_forall, not_not]

end Catalog.Cairo

/-! ## The triggers -/

/-- Each of the three triggers fires just when the lines that it is about exist. -/
theorem scanning_triggers_exact (code : Text) :
    (∃ d ∈ Catalog.of .vyper, d.id = "vyper-reentrancy" ∧ d.Decides code
      (∃ f ∈ Catalog.Vyper.functions code,
        (∀ decorator ∈ f.decorators, decorator.startsWith "@nonreentrant".toList = false) ∧
          ∃ i j, 1 ≤ i ∧ Catalog.Vyper.WriteAfterTransfer f.lines i j)) ∧
    (∃ d ∈ Catalog.of .cairo, d.id = "cairo-reentrancy" ∧ d.Decides code
      (∃ a b c, Catalog.Cairo.WriteAfterCall (Catalog.Cairo.codeLines code) a b c)) ∧
    ∃ d ∈ Catalog.of .cairo, d.id = "cairo-storage-collision" ∧ d.Decides code
      (∃ i j, Catalog.Cairo.Collides (Catalog.Cairo.codeLines code) i j) :=
  ⟨Catalog.exists_decides rfl (Catalog.Vyper.hasReentrancy_iff code),
    Catalog.exists_decides rfl (Catalog.Cairo.hasReentrancy_iff code),
    Catalog.exists_decides rfl (Catalog.Cairo.hasStorageCollision_iff code)⟩

-- One line is enough in Cairo and never enough in Vyper.
example :
    Catalog.Cairo.hasReentrancy "fn f() \x7b call_contract(a); s.write(1); \x7d".toList = true ∧
      Catalog.Vyper.hasReentrancy "def f():\n    self.x = send(a, 1)".toList = false := by
  decide

end ContractAudit
