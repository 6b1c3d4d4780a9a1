import ContractAudit.Proofs.Acceptance
import ContractAudit.Proofs.Enhancement
import Mathlib.Data.List.Induction

/-!
# Findings that are enhanced again and again

Each of the three texts of a finding is written by the last payload that offers one: a text that is
not blank, under the name that belongs to it. Whatever else stands there counts as nothing. The rest
of the finding stays as it is at every step, so its score, its identity among other findings and
what the collaborator is told about it do not depend on the payloads.
-/
namespace ContractAudit

namespace Text

structure IsTrimOf (t s : Text) : Prop where
  around : ∃ front back, s = front ++ t ++ back ∧
    (∀ c ∈ front, isBlank c = true) ∧ ∀ c ∈ back, isBlank c = true
  head : ∀ c, t.head? = some c → isBlank c = false
  last : ∀ c, t.getLast? = some c → isBlank c = false

theorem isBlank_of_head?_dropWhile {t : Text} {c : Char}
    (h : (t.dropWhile isBlank).head? = some c) : isBlank c = false := by
  have hnot := t.head?_dropWhile_not isBlank
  rwa [h] at hnot

theorem trimEnd_append (t : Text) : t.trimEnd ++ (t.reverse.takeWhile isBlank).reverse = t := by
  rw [trimEnd, ← List.reverse_append, List.takeWhile_append_dropWhile, List.reverse_reverse]

theorem isTrimOf_trim (t : Text) : IsTrimOf t.trim t := by
  have hend := trimEnd_append t.trimStart
  refine ⟨⟨t.takeWhile isBlank, (t.trimStart.reverse.takeWhile isBlank).reverse, ?_, ?_, ?_⟩,
    ?_, ?_⟩
  · rw [List.append_assoc, trim, hend, trimStart, List.takeWhile_append_dropWhile]
  · intro c hc
    exact List.mem_takeWhile_imp hc
  · intro c hc
    exact List.mem_takeWhile_imp (List.mem_reverse.mp hc)
  · intro c hc
    apply isBlank_of_head?_dropWhile (t := t)
    rw [← trimStart, ← hend, List.head?_append, ← trim, hc, Option.some_or]
  · intro c hc
    rw [trim, trimEnd, List.getLast?_reverse] at hc
    exact isBlank_of_head?_dropWhile hc

end Text

inductive Wording where
  | description
  | exploitation
  | recommendation

namespace Wording

def key : Wording → String
  | description => "enhancedDescription"
  | exploitation => "exploitationScenario"
  | recommendation => "recommendation"

def of : Wording → Finding → String
  | description, f => f.description
  | exploitation, f => f.exploitation
  | recommendation, f => f.recommendation

/-- A payload holds a text for this place, and the text is not blank. -/
def Offers (w : Wording) (payload : List (String × Json)) (s : String) : Prop :=
  Json.member? payload w.key = some (.str s) ∧ ∃ c ∈ s.toList, Text.isBlank c = false

end Wording

namespace EnhancementResponse

theorem offeredText_str (s : String) :
    offeredText (some (.str s)) =
      if Text.isBlankText s.toList then none else some (trimString s) := rfl

theorem offeredText_eq_some_iff {w : Wording} {payload : List (String × Json)} {text : String} :
    offeredText (Json.member? payload w.key) = some text ↔
      ∃ s, w.Offers payload s ∧ text = trimString s := by
  unfold Wording.Offers
  generalize Json.member? payload w.key = value
  rcases value with _ | (_ | _ | _ | _ | s | _ | _)
  case some.str =>
    have hink : (∃ c ∈ s.toList, Text.isBlank c = false) ↔ Text.isBlankText s.toList = false := by
      simp [Text.isBlankText]
    rw [offeredText_str]
    constructor
    · intro htext
      cases hblank : Text.isBlankText s.toList with
      | true => simp [hblank] at htext
      | false => exact ⟨s, ⟨rfl, hink.mpr hblank⟩, by simpa [hblank] using htext.symm⟩
    · rintro ⟨_, ⟨hvalue, hs⟩, rfl⟩
      cases hvalue
      rw [hink.mp hs]
      rfl
  all_goals simp [offeredText]

theorem trimString_ne_empty {w : Wording} {payload : List (String × Json)} {s : String}
    (h : w.Offers payload s) : trimString s ≠ "" := by
  obtain ⟨-, c, hc, hink⟩ := h
  intro hempty
  have hnil : Text.trim s.toList = [] := by simpa [trimString] using hempty
  have hblank := List.all_eq_true.mp ((Text.trim_eq_nil_iff _).mp hnil) c hc
  rw [hink] at hblank
  exact Bool.false_ne_true hblank

def applyAll (payloads : List (List (String × Json))) (f : Finding) : Finding :=
  payloads.foldl (fun f payload => (ofPayload payload).applyTo f) f

@[simp] theorem applyAll_nil (f : Finding) : applyAll [] f = f := rfl

@[simp] theorem applyAll_concat (payloads : List (List (String × Json)))
    (payload : List (String × Json)) (f : Finding) :
    applyAll (payloads ++ [payload]) f = (ofPayload payload).applyTo (applyAll payloads f) := by
  simp [applyAll]

theorem of_applyTo (w : Wording) (payload : List (String × Json)) (f : Finding) :
    w.of ((ofPayload payload).applyTo f) =
      orKeep (offeredText (Json.member? payload w.key)) (w.of f) := by
  cases w <;> rfl

theorem of_applyTo_of_offers {w : Wording} {payload : List (String × Json)} {s : String}
    (h : w.Offers payload s) (f : Finding) :
    w.of ((ofPayload payload).applyTo f) = trimString s := by
  rw [of_applyTo, offeredText_eq_some_iff.mpr ⟨s, h, rfl⟩]
  simp [orKeep, orText, trimString_ne_empty h]

theorem of_applyTo_of_not_offers {w : Wording} {payload : List (String × Json)}
    (h : ∀ s, ¬ w.Offers payload s) (f : Finding) :
    w.of ((ofPayload payload).applyTo f) = w.of f := by
  have hnone : offeredText (Json.member? payload w.key) = none := by
    rw [Option.eq_none_iff_forall_ne_some]
    intro text htext
    obtain ⟨s, hs, -⟩ := offeredText_eq_some_iff.mp htext
    exact h s hs
  rw [of_applyTo, hnone]
  rfl

theorem of_applyAll (w : Wording) (payloads : List (List (String × Json))) (f : Finding) :
    (∃ earlier payload later s, payloads = earlier ++ payload :: later ∧ w.Offers payload s ∧
      (∀ p ∈ later, ∀ s, ¬ w.Offers p s) ∧ w.of (applyAll payloads f) = trimString s) ∨
    ((∀ p ∈ payloads, ∀ s, ¬ w.Offers p s) ∧ w.of (applyAll payloads f) = w.of f) := by
  induction payloads using List.reverseRecOn with
  | nil => exact .inr ⟨by simp, rfl⟩
  | append_singleton payloads last ih =>
    rw [applyAll_concat]
    by_cases hlast : ∃ s, w.Offers last s
    · obtain ⟨s, hs⟩ := hlast
      exact .inl ⟨payloads, last, [], s, rfl, hs, by simp, of_applyTo_of_offers hs _⟩
    · have hnone : ∀ s, ¬ w.Offers last s := not_exists.mp hlast
      rw [of_applyTo_of_not_offers hnone]
      rcases ih with ⟨earlier, payload, later, s, rfl, hs, hlater, htext⟩ | ⟨hall, htext⟩
      · refine .inl ⟨earlier, payload, later ++ [last], s, by simp, hs, ?_, htext⟩
        simpa [or_imp, forall_and] using And.intro hlater hnone
      · exact .inr ⟨by simpa [or_imp, forall_and] using And.intro hall hnone, htext⟩

theorem of_applyAll_ne_empty {w : Wording} {f : Finding} (h : w.of f ≠ "")
    (payloads : List (List (String × Json))) : w.of (applyAll payloads f) ≠ "" := by
  rcases of_applyAll w payloads f with ⟨_, _, _, s, _, hs, _, htext⟩ | ⟨_, htext⟩
  · rw [htext]
    exact trimString_ne_empty hs
  · rwa [htext]

theorem fixedPart_applyAll (payloads : List (List (String × Json))) (f : Finding) :
    (applyAll payloads f).fixedPart = f.fixedPart := by
  induction payloads using List.reverseRecOn with
  | nil => rfl
  | append_singleton payloads last ih =>
    rw [applyAll_concat, applyTo, Finding.fixedPart_enhance, ih]

theorem method_applyAll (payloads : List (List (String × Json))) (f : Finding) :
    (applyAll payloads f).method = .ai ↔ f.method = .ai ∨ payloads ≠ [] := by
  induction payloads using List.reverseRecOn with
  | nil => simp
  | append_singleton payloads last _ => simp [applyTo]

/-- What payloads make of a finding: the last offer wins for each text, any payload marks the
finding, and at every step no text is lost and nothing else has changed. -/
theorem applyAll_last_offer_wins (f : Finding) (payloads : List (List (String × Json))) :
    (∀ w : Wording,
      (∃ earlier payload later s, payloads = earlier ++ payload :: later ∧ w.Offers payload s ∧
        (∀ p ∈ later, ∀ s, ¬ w.Offers p s) ∧
        Text.IsTrimOf (w.of (applyAll payloads f)).toList s.toList) ∨
      ((∀ p ∈ payloads, ∀ s, ¬ w.Offers p s) ∧ w.of (applyAll payloads f) = w.of f)) ∧
    ((applyAll payloads f).method = .ai ↔ f.method = .ai ∨ payloads ≠ []) ∧
    ∀ steps, let g := applyAll (payloads.take steps) f
      (∀ w : Wording, w.of f ≠ "" → w.of g ≠ "") ∧
      g = { f with
        description := g.description
        exploitation := g.exploitation
        recommendation := g.recommendation
        method := g.method } ∧
      g.weaknessId = f.weaknessId ∧
      EnhancementRequest.ofFinding g = EnhancementRequest.ofFinding f := by
  refine ⟨?_, method_applyAll payloads f, ?_⟩
  · intro w
    rcases of_applyAll w payloads f with
      ⟨earlier, payload, later, s, hsplit, hs, hlater, htext⟩ | hkept
    · refine .inl ⟨earlier, payload, later, s, hsplit, hs, hlater, ?_⟩
      rw [htext, trimString, String.toList_ofList]
      exact Text.isTrimOf_trim s.toList
    · exact .inr hkept
  · intro steps g
    have hfixed : g.fixedPart = f.fixedPart := fixedPart_applyAll _ f
    refine ⟨fun w hw => of_applyAll_ne_empty hw _, ?_, ?_, ?_⟩
    · exact (congrArg (fun h : Finding => { h with
        description := g.description
        exploitation := g.exploitation
        recommendation := g.recommendation
        method := g.method }) hfixed :)
    · exact (congrArg Finding.weaknessId hfixed :)
    · exact (congrArg EnhancementRequest.ofFinding hfixed :)

/-- A blank offer after a good one, and a number where a text belongs. -/
theorem applyAll_last_offer_wins_blank_offer :
    let f : Finding :=
      { name := "n", type := "T", severity := .high, description := "d", exploitation := "e" }
    let payloads : List (List (String × Json)) :=
      [[("enhancedDescription", .str " better\n"), ("exploitationScenario", .int 5)],
        [("enhancedDescription", .str "  ")]]
    Wording.description.of f ≠ "" ∧ Wording.description.of (applyAll (payloads.take 2) f) ≠ "" ∧
      (applyAll payloads f).description = "better" ∧ (applyAll payloads f).exploitation = "e" ∧
      (applyAll payloads f).method = .ai := by
  intro f payloads
  obtain ⟨-, hmethod, hsteps⟩ := applyAll_last_offer_wins f payloads
  have hgiven : Wording.description.of f ≠ "" := by decide
  exact ⟨hgiven, (hsteps 2).1 .description hgiven, by decide, by decide,
    hmethod.mpr (.inr (List.cons_ne_nil _ _))⟩

end EnhancementResponse

end ContractAudit
