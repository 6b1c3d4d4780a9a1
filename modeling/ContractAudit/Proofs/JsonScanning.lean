import ContractAudit.Json.Reader
import ContractAudit.Proofs.PatternMeaning
import Mathlib.Data.List.Infix
import Mathlib.Data.List.TakeWhile

/-!
# What the reader of JSON passes over

Every reader takes its value off the front of the text and leaves the rest as it is. So a whole
number that is refused for its length is one that the text holds.
-/
namespace ContractAudit.Json

structure LongNumeral (t digits : Text) : Prop where
  within : digits <:+: t
  decimal : ∀ c ∈ digits, c.isDigit = true
  long : Text.numeralLimit < digits.length

/-- What is left is an end of the text, and a numeral that is too long is one of the text. -/
def Scans {α : Type} (t : Text) : Except ReadError (α × Text) → Prop
  | .ok (_, rest) => rest <:+ t
  | .error .malformed => True
  | .error (.numeralTooLong n) => ∃ digits, LongNumeral t digits ∧ digits.length = n

namespace Scans

variable {α β : Type} {t rest : Text}

theorem of_suffix {x : Except ReadError (α × Text)} (h : Scans rest x) (hrest : rest <:+ t) :
    Scans t x := by
  match x, h with
  | .ok _, h => exact List.IsSuffix.trans h hrest
  | .error .malformed, _ => trivial
  | .error (.numeralTooLong n), ⟨digits, hdigits, hlength⟩ =>
    exact ⟨digits, ⟨hdigits.within.trans hrest.isInfix, hdigits.decimal, hdigits.long⟩, hlength⟩

theorem bind {x : Except ReadError (α × Text)} {f : α × Text → Except ReadError (β × Text)}
    (hx : Scans t x) (hf : ∀ a rest, rest <:+ t → Scans t (f (a, rest))) : Scans t (x >>= f) := by
  match x, hx with
  | .ok (a, rest), hx => exact hf a rest hx
  | .error .malformed, _ => trivial
  | .error (.numeralTooLong _), hx => exact hx

end Scans

theorem skipSpace_suffix (t : Text) : skipSpace t <:+ t :=
  List.dropWhile_suffix _

theorem suffix_of_skipSpace {t rest after : Text} {mark : Char} (hrest : rest <:+ t)
    (h : skipSpace rest = mark :: after) : after <:+ t := by
  have hmark : mark :: after <:+ rest := h ▸ skipSpace_suffix rest
  exact (List.suffix_cons mark after).trans (hmark.trans hrest)

/-! ## Strings -/

theorem readHex_suffix {t rest : Text} {n : Nat} (h : readHex t = some (n, rest)) : rest <:+ t := by
  unfold readHex at h
  split at h
  · rename_i a b c d rest'
    obtain rfl : rest' = rest := by
      simp only [Option.bind_eq_bind, Option.bind_eq_some_iff] at h
      obtain ⟨_, _, _, _, _, _, _, _, hpair⟩ := h
      exact (Prod.mk.inj (Option.some.inj hpair)).2
    exact ⟨[a, b, c, d], rfl⟩
  · cases h

theorem readUnit_suffix (unit : Nat) (t : Text) : (readUnit unit t).2 <:+ t := by
  unfold readUnit
  split
  · split
    · rename_i after
      split
      · rename_i hlow
        split
        · exact (readHex_suffix hlow).trans ⟨['\\', 'u'], rfl⟩
        · exact List.suffix_refl _
      · exact List.suffix_refl _
    · exact List.suffix_refl _
  · split <;> exact List.suffix_refl _

theorem scans_readString (bound : Nat) (sofar t : Text) : Scans t (readString bound sofar t) := by
  induction bound generalizing sofar t with
  | zero => trivial
  | succ bound ih =>
    cases t with
    | nil => trivial
    | cons c rest =>
      unfold readString
      split_ifs
      · exact ⟨[c], rfl⟩
      · split
        · rename_i after
          split
          · trivial
          · rename_i unit rest' hunit
            have hrest := (readUnit_suffix unit rest').trans (readHex_suffix hunit)
            exact (ih _ _).of_suffix (hrest.trans ⟨[c, 'u'], rfl⟩)
        · rename_i e after _
          split
          · trivial
          · exact (ih _ _).of_suffix ⟨[c, e], rfl⟩
        · trivial
      · trivial
      · exact (ih _ _).of_suffix ⟨[c], rfl⟩

/-! ## Numbers and words -/

theorem readFraction_suffix (t : Text) : (readFraction t).2 <:+ t := by
  unfold readFraction
  split
  · rename_i rest
    dsimp only
    split_ifs
    · exact List.suffix_refl _
    · exact (List.drop_suffix _ rest).trans ⟨['.'], rfl⟩
  · exact List.suffix_refl _

theorem readExponent_suffix (t : Text) : (readExponent t).2 <:+ t := by
  unfold readExponent
  split
  · exact List.suffix_refl _
  · rename_i e rest
    dsimp only
    split_ifs
    · exact List.suffix_refl _
    · exact ((List.drop_suffix _ _).trans (List.drop_suffix _ rest)).trans ⟨[e], rfl⟩
    · exact List.suffix_refl _

theorem readWhole_eq_append {t whole rest : Text} (h : readWhole t = some (whole, rest)) :
    t = whole ++ rest ∧ ∀ c ∈ whole, c.isDigit = true := by
  unfold readWhole at h
  split at h
  · obtain ⟨rfl, rfl⟩ := Prod.mk.inj (Option.some.inj h)
    refine ⟨rfl, ?_⟩
    intro c hc
    rw [List.mem_singleton.mp hc]
    rfl
  · dsimp only at h
    split_ifs at h
    obtain ⟨rfl, rfl⟩ := Prod.mk.inj (Option.some.inj h)
    exact ⟨List.prefix_iff_eq_append.mp (List.takeWhile_prefix _) |>.symm,
      fun c hc => List.mem_takeWhile_imp hc⟩

theorem scans_readUnsigned (negative : Bool) (t : Text) : Scans t (readUnsigned negative t) := by
  unfold readUnsigned
  split
  · trivial
  · rename_i whole rest hwhole
    obtain ⟨rfl, hdigits⟩ := readWhole_eq_append hwhole
    have hrest : rest <:+ whole ++ rest := List.suffix_append whole rest
    have hafter := (readExponent_suffix (readFraction rest).2).trans (readFraction_suffix rest)
    dsimp only
    split
    · split
      · rename_i hlong
        have hlength : Text.numeralLimit < whole.length := by
          simpa [Text.readNumeral?] using hlong
        exact ⟨whole, ⟨(List.prefix_append whole rest).isInfix, hdigits, hlength⟩, rfl⟩
      · exact hrest
    · split
      · trivial
      · exact hafter.trans hrest

theorem readWord_suffix {t rest : Text} {value : Json} (h : readWord t = some (value, rest)) :
    rest <:+ t := by
  obtain ⟨⟨word, found⟩, -, hword⟩ := List.exists_of_findSome?_eq_some h
  obtain ⟨rest', hdrop, hpair⟩ := Option.map_eq_some_iff.mp hword
  obtain ⟨-, rfl⟩ := Prod.mk.inj hpair
  exact ⟨_, (Pattern.dropOpening?_eq_some_iff.mp hdrop).symm⟩

theorem scans_readScalar (t : Text) : Scans t (readScalar t) := by
  unfold readScalar
  split
  · rename_i hword
    exact readWord_suffix hword
  · split
    · exact (scans_readUnsigned true _).of_suffix ⟨['-'], rfl⟩
    · exact scans_readUnsigned false _

/-! ## Values -/

/-- Each of the three readers calls the others with a smaller bound, so one induction on the bound
serves them all. -/
theorem scans_all (bound : Nat) :
    (∀ t, Scans t (readValue bound t)) ∧ (∀ sofar t, Scans t (readItems bound sofar t)) ∧
      ∀ sofar t, Scans t (readMembers bound sofar t) := by
  induction bound with
  | zero => exact ⟨fun _ => trivial, fun _ _ => trivial, fun _ _ => trivial⟩
  | succ bound ih =>
    obtain ⟨ihvalue, ihitems, ihmembers⟩ := ih
    refine ⟨?_, ?_, ?_⟩
    · intro t
      unfold readValue
      split
      · rename_i rest
        refine Scans.of_suffix ?_ (List.suffix_cons '\x22' rest)
        refine (scans_readString _ _ rest).bind ?_
        intro s rest' hrest
        exact hrest
      · rename_i rest
        split
        · rename_i after hafter
          exact suffix_of_skipSpace (List.suffix_cons '[' rest) hafter
        · exact (ihitems _ _).of_suffix ((skipSpace_suffix rest).trans (List.suffix_cons '[' rest))
      · rename_i rest
        split
        · rename_i after hafter
          exact suffix_of_skipSpace (List.suffix_cons '\x7b' rest) hafter
        · exact (ihmembers _ _).of_suffix
            ((skipSpace_suffix rest).trans (List.suffix_cons '\x7b' rest))
      · exact scans_readScalar t
    · intro sofar t
      unfold readItems
      refine (ihvalue t).bind ?_
      intro item rest hrest
      dsimp only
      split
      · rename_i after hafter
        exact (ihitems _ _).of_suffix
          ((skipSpace_suffix after).trans (suffix_of_skipSpace hrest hafter))
      · rename_i after hafter
        exact suffix_of_skipSpace hrest hafter
      · trivial
    · intro sofar t
      unfold readMembers
      split
      · rename_i rest
        refine Scans.of_suffix ?_ (List.suffix_cons '\x22' rest)
        refine (scans_readString _ _ rest).bind ?_
        intro key rest' hrest'
        dsimp only
        split
        · rename_i after hafter
          have hvalue := (skipSpace_suffix after).trans (suffix_of_skipSpace hrest' hafter)
          refine ((ihvalue _).of_suffix hvalue).bind ?_
          intro value left hleft
          dsimp only
          split
          · rename_i after hafter
            exact (ihmembers _ _).of_suffix
              ((skipSpace_suffix after).trans (suffix_of_skipSpace hleft hafter))
          · rename_i after hafter
            exact suffix_of_skipSpace hleft hafter
          · trivial
        · trivial
      · trivial

theorem exists_longNumeral_of_read {t : Text} {n : Nat}
    (h : read t = .error (.numeralTooLong n)) :
    ∃ digits, LongNumeral t digits ∧ digits.length = n := by
  have hscans := ((scans_all (2 * t.length + 2)).1 (skipSpace t)).of_suffix (skipSpace_suffix t)
  unfold read at h
  cases hvalue : readValue (2 * t.length + 2) (skipSpace t) with
  | ok found =>
    obtain ⟨value, rest⟩ := found
    rw [hvalue] at h
    change (if (skipSpace rest).isEmpty then _ else _) = _ at h
    split_ifs at h
    · cases h
    · cases h
  | error e =>
    rw [hvalue] at h hscans
    cases h
    exact hscans

end ContractAudit.Json
