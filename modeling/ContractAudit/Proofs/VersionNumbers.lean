import ContractAudit.Proofs.GreedyRuns
import ContractAudit.Source.Pragma

/-!
# Reading version numbers back

The digits of a number are read as that number, and the version that a constraint begins with, its
operator aside, is the one that is read, if no part of it has more digits than a numeral may have.
-/
namespace ContractAudit

/-! ## Numerals -/

namespace Text

theorem digitValue?_of_isDigit {c : Char} (hc : c.isDigit = true) :
    digitValue? c = some (c.toNat - '0'.toNat) := by
  have hascii : c.toNat < 128 := by
    have hle : c.toNat ≤ 57 := (Char.isDigit_iff_toNat.mp hc).2
    omega
  rw [digitValue?, if_pos hascii, if_pos hc]

theorem isDecimal_of_mem_toDigits {n : Nat} {c : Char} (hc : c ∈ Nat.toDigits 10 n) :
    isDecimal c = true := by
  rw [isDecimal, digitValue?_of_isDigit (Nat.isDigit_of_mem_toDigits (by decide) (by decide) hc)]
  rfl

theorem numeralValue_toDigits (n : Nat) : numeralValue (Nat.toDigits 10 n) = n := by
  have hvalue (digits : List Char) (hdigits : ∀ c ∈ digits, c.isDigit = true) (start : Nat) :
      digits.foldl (fun n c => 10 * n + (digitValue? c).getD 0) start =
        Nat.ofDigitChars 10 digits start := by
    induction digits generalizing start with
    | nil => rfl
    | cons c digits ih =>
      obtain ⟨hc, hdigits⟩ := List.forall_mem_cons.mp hdigits
      rw [List.foldl_cons, ih hdigits, digitValue?_of_isDigit hc, Nat.ofDigitChars_cons,
        Option.getD_some]
  have hdigits : ∀ c ∈ Nat.toDigits 10 n, c.isDigit = true :=
    fun c hc => Nat.isDigit_of_mem_toDigits (by decide) (by decide) hc
  rw [numeralValue, hvalue _ hdigits, Nat.ofDigitChars_ten_toDigits]

end Text

/-! ## Searching -/

namespace Pattern

theorem exists_findFrom?_append {p : Pattern} {ahead t : Text}
    (hahead : ∀ c more, c :: more <:+ ahead → ∀ before offset,
      p.matchHere? before (c :: (more ++ t)) offset = none)
    (before : Option Char) (offset : Nat) :
    ∃ before' offset', p.findFrom? before (ahead ++ t) offset = p.findFrom? before' t offset' := by
  induction ahead generalizing before offset with
  | nil => exact ⟨before, offset, rfl⟩
  | cons c ahead ih =>
    rw [List.cons_append, findFrom?, hahead c ahead (List.suffix_refl _)]
    apply ih
    intro d more hmore
    exact hahead d more (hmore.trans (List.suffix_cons c ahead))

theorem findFrom?_of_matchHere? {p : Pattern} {before : Option Char} {t : Text} {offset : Nat}
    {m : Match} (h : p.matchHere? before t offset = some m) :
    p.findFrom? before t offset = some m := by
  cases t with
  | nil => exact h
  | cons c t => rw [findFrom?, h]

end Pattern

/-! ## Versions -/

namespace Source

open Pattern

def Version.text (v : Version) : Text :=
  Nat.toDigits 10 v.major ++ '.' :: (Nat.toDigits 10 v.minor ++ '.' :: Nat.toDigits 10 v.patch)

def Version.isReadable (v : Version) : Bool :=
  [v.major, v.minor, v.patch].all fun n => (Nat.toDigits 10 n).length ≤ Text.numeralLimit

theorem readPart_toDigits (n : Nat) :
    readPart (Nat.toDigits 10 n) =
      if (Nat.toDigits 10 n).length ≤ Text.numeralLimit then .ok n else .error .numeralTooLong := by
  rw [readPart, Text.readNumeral?, Text.numeralValue_toDigits]
  by_cases h : (Nat.toDigits 10 n).length ≤ Text.numeralLimit
  · simp [h]
  · simp [h]

theorem matchHere?_of_not_decimal {c : Char} (hc : Text.isDecimal c = false)
    (before : Option Char) (t : Text) (offset : Nat) :
    versionPattern.matchHere? before (c :: t) offset = none := by
  simp [matchHere?, versionPattern, inOrder, run, many1, hc]

def patchPart : Pattern :=
  Pattern.optional (seq (Pattern.text ".") (capture 3 (many1 Text.isDecimal)))

def minorPart : Pattern :=
  seq (Pattern.text ".") (seq (capture 2 (many1 Text.isDecimal)) patchPart)

theorem isSome_run_patchPart (s : Place) : (patchPart.run s some).isSome = true := by
  rw [patchPart, Pattern.optional, run_alt_eq_or, Option.isSome_or]
  simp [run]

theorem isDecimal_point : Text.isDecimal '.' = false := by
  decide

theorem not_decimal_of_mem_head? {a : Char} (ha : Text.isDecimal a = false) (t : Text) :
    ∀ c ∈ (a :: t).head?, Text.isDecimal c = false := by
  intro c hc
  obtain rfl := Option.some.inj hc
  exact ha

theorem stuck_minorPart : Stuck Text.isDecimal (minorPart.run · some) := by
  have hstuck : Stuck Text.isDecimal ((Pattern.text ".").run ·
      ((seq (capture 2 (many1 Text.isDecimal)) patchPart).run · some)) :=
    stuck_exactly isDecimal_point []
  exact hstuck

section Match

variable {rest : Text} (hrest : ∀ c ∈ rest.head?, Text.isDecimal c = false)
include hrest

theorem run_number_append (group n : Nat) {next : Place → Option Place}
    (hnext : Stuck Text.isDecimal next ∨ ∀ s, (next s).isSome = true) (before : Option Char)
    (captures : List Capture) :
    (capture group (many1 Text.isDecimal)).run ⟨before, Nat.toDigits 10 n ++ rest, captures⟩ next =
      next ⟨(Nat.toDigits 10 n).getLast?.or before, rest,
        ⟨group, Nat.toDigits 10 n ++ rest, rest⟩ :: captures⟩ :=
  run_capture_append group Nat.toDigits_ne_nil (fun _ => Text.isDecimal_of_mem_toDigits) hrest hnext
    before captures

theorem run_patchPart (n : Nat) (before : Option Char) (captures : List Capture) :
    patchPart.run ⟨before, '.' :: (Nat.toDigits 10 n ++ rest), captures⟩ some =
      some ⟨(Nat.toDigits 10 n).getLast?.or (some '.'), rest,
        ⟨3, Nat.toDigits 10 n ++ rest, rest⟩ :: captures⟩ := by
  have hdigits := run_number_append hrest 3 n (.inr fun s => (rfl : (some s).isSome = true))
    (some '.') captures
  rw [patchPart, Pattern.optional, run_alt_eq_or, run_seq]
  exact congrArg (Option.or · _) hdigits

theorem run_minorPart (n m : Nat) (before : Option Char) (captures : List Capture) :
    minorPart.run ⟨before, '.' :: (Nat.toDigits 10 n ++ '.' :: (Nat.toDigits 10 m ++ rest)),
        captures⟩ some =
      some ⟨(Nat.toDigits 10 m).getLast?.or (some '.'), rest,
        ⟨3, Nat.toDigits 10 m ++ rest, rest⟩ ::
          ⟨2, Nat.toDigits 10 n ++ '.' :: (Nat.toDigits 10 m ++ rest),
            '.' :: (Nat.toDigits 10 m ++ rest)⟩ :: captures⟩ := by
  have hpoint := not_decimal_of_mem_head? isDecimal_point (Nat.toDigits 10 m ++ rest)
  have hdigits := run_number_append hpoint 2 n (.inr isSome_run_patchPart) (some '.') captures
  exact hdigits.trans (run_patchPart hrest m _ _)

theorem exists_matchHere?_text (v : Version) (before : Option Char) (offset : Nat) :
    ∃ m, versionPattern.matchHere? before (v.text ++ rest) offset = some m ∧
      m.group 1 = Nat.toDigits 10 v.major ∧ m.group 2 = Nat.toDigits 10 v.minor ∧
        m.group 3 = Nat.toDigits 10 v.patch := by
  have hpoint := not_decimal_of_mem_head? isDecimal_point
    (Nat.toDigits 10 v.minor ++ '.' :: (Nat.toDigits 10 v.patch ++ rest))
  have hdigits := run_number_append hpoint 1 v.major (.inl stuck_minorPart) before []
  have hrun := hdigits.trans (run_minorPart hrest v.minor v.patch _ _)
  have htext : v.text ++ rest = Nat.toDigits 10 v.major ++
      '.' :: (Nat.toDigits 10 v.minor ++ '.' :: (Nat.toDigits 10 v.patch ++ rest)) := by
    simp [Version.text]
  rw [htext, matchHere?]
  refine ⟨_, congrArg _ hrun, ?_, ?_, ?_⟩
  · exact Capture.text_of_append ..
  · exact Capture.text_of_append ..
  · exact Capture.text_of_append ..

/-- The version that a constraint begins with, its operator aside, is the one that is read. -/
theorem constraintVersion?_append {ahead : Text} (hahead : ahead.all (!Text.isDecimal ·) = true)
    (v : Version) :
    constraintVersion? (ahead ++ (v.text ++ rest)) =
      if v.isReadable then .ok (some v) else .error .numeralTooLong := by
  have hahead : ∀ c ∈ ahead, Text.isDecimal c = false := by simpa using hahead
  have hpassed (c : Char) (more : Text) (hmore : c :: more <:+ ahead) (before : Option Char)
      (offset : Nat) :
      versionPattern.matchHere? before (c :: (more ++ (v.text ++ rest))) offset = none :=
    matchHere?_of_not_decimal (hahead c (hmore.subset List.mem_cons_self)) before _ offset
  obtain ⟨before, offset, hfind⟩ := exists_findFrom?_append hpassed none 0
  obtain ⟨m, hm, hmajor, hminor, hpatch⟩ := exists_matchHere?_text hrest v before offset
  have hfound : versionPattern.find? (ahead ++ (v.text ++ rest)) = some m :=
    hfind.trans (findFrom?_of_matchHere? hm)
  simp only [constraintVersion?, hfound, hmajor, hminor, hpatch, readPart_toDigits]
  by_cases hone : (Nat.toDigits 10 v.major).length ≤ Text.numeralLimit
  · by_cases htwo : (Nat.toDigits 10 v.minor).length ≤ Text.numeralLimit
    · by_cases hthree : (Nat.toDigits 10 v.patch).length ≤ Text.numeralLimit
      · simp [Version.isReadable, hone, htwo, hthree, bind, Except.bind, pure, Except.pure]
      · simp [Version.isReadable, hone, htwo, hthree, bind, Except.bind]
    · simp [Version.isReadable, hone, htwo, bind, Except.bind]
  · simp [Version.isReadable, hone, bind, Except.bind]

end Match

end Source

end ContractAudit
