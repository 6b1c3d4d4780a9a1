import ContractAudit.Proofs.CallProgram

/-!
# Rejection is the only way to fail

When the values of a request are of the right kinds, an audit is turned down exactly for blank code,
an unknown facet or an unknown filter, and before any collaborator is called. In every other case
there is a report, whichever calls to detectors, extractors and the enhancer fail.
-/
namespace ContractAudit

namespace Request

def ofValues (code : String) (fileName : Option String) (facets : List Facet.Entry)
    (severity : String) (language : Option Dialect) : Request where
  code := .str code
  fileName := Json.orNull (fileName.map .str)
  facets := facets
  severity := .str severity
  language := language

/-- Why such a request is turned down. -/
def Refused (code : String) (facets : List Facet.Entry) (severity : String) : Prop :=
  Text.trim code.toList = [] ∨ (∃ entry ∈ facets, entry.facet? = none) ∨
    String.ofList (Text.lower (Text.trim severity.toList)) ∉
      ["all", "critical", "high", "medium", "low"]

instance (code : String) (facets : List Facet.Entry) (severity : String) :
    Decidable (Refused code facets severity) :=
  inferInstanceAs (Decidable (_ ∨ _))

theorem facet?_ofName_eq_none_iff (name : String) :
    (Facet.Entry.ofName name).facet? = none ↔ name ∉ ["static", "ai", "standards"] := by
  rw [← Facet.ofName?_isSome_iff, Facet.Entry.ofName]
  cases Facet.ofName? name <;> simp [Facet.Entry.facet?]

/-- Where every name of a facet stands for that facet, a request is turned down for its facets when
one of their names is unknown. -/
theorem refused_map_ofName_iff (code : String) (names : List String) (severity : String) :
    Refused code (names.map .ofName) severity ↔
      Text.trim code.toList = [] ∨ (∃ name ∈ names, name ∉ ["static", "ai", "standards"]) ∨
        String.ofList (Text.lower (Text.trim severity.toList)) ∉
          ["all", "critical", "high", "medium", "low"] := by
  have hentries : (∃ entry ∈ names.map Facet.Entry.ofName, entry.facet? = none) ↔
      ∃ name ∈ names, name ∉ ["static", "ai", "standards"] := by
    simp only [List.mem_map, exists_exists_and_eq_and, facet?_ofName_eq_none_iff]
  rw [Refused, hentries]

section

variable (code : String) (fileName : Option String) (facets : List Facet.Entry)
  (severity : String) (language : Option Dialect)

theorem exists_resolveDialect_ofValues :
    ∃ d, (ofValues code fileName facets severity language).resolveDialect code = .ok d := by
  unfold resolveDialect ofValues
  cases language with
  | some d => exact ⟨d, rfl⟩
  | none =>
    cases fileName with
    | none => exact ⟨_, rfl⟩
    | some name =>
      by_cases hname : (Json.str name).isEmpty
      · exact ⟨_, if_pos hname⟩
      · exact ⟨_, if_neg hname⟩

theorem accept_ofValues_cases :
    (Refused code facets severity ∧
        ∃ reason, (ofValues code fileName facets severity language).accept =
          .error (.rejected reason)) ∨
      (¬ Refused code facets severity ∧
        ∃ t, (ofValues code fileName facets severity language).accept = .ok t) := by
  rcases codeText_of_str (r := ofValues code fileName facets severity language) rfl with
    ⟨hblank, hcode⟩ | ⟨hblank, hcode⟩
  · exact .inl ⟨.inl hblank, _, accept_eq_error_iff.mpr (.inl hcode)⟩
  rcases checkFacets_cases facets with ⟨hmembers, found, hfacets⟩ | ⟨name, hname, hfacets⟩
  case inr =>
    exact .inl ⟨.inr (.inl ⟨_, hname, rfl⟩), _,
      accept_eq_error_iff.mpr (.inr ⟨code, hcode, .inl hfacets⟩)⟩
  rcases checkSeverity_of_str (r := ofValues code fileName facets severity language) rfl with
    ⟨hfilter, least, hseverity⟩ | ⟨hfilter, hseverity⟩
  case inr =>
    exact .inl ⟨.inr (.inr hfilter), _,
      accept_eq_error_iff.mpr (.inr ⟨code, hcode, .inr ⟨found, hfacets, .inl hseverity⟩⟩)⟩
  obtain ⟨dialect, hdialect⟩ :=
    exists_resolveDialect_ofValues code fileName facets severity language
  refine .inr ⟨?_, ⟨code, _, dialect, found, least⟩,
    accept_eq_ok_iff.mpr ⟨hcode, hfacets, hseverity, hdialect, rfl⟩⟩
  rintro (h | ⟨entry, hentry, hplain⟩ | h)
  · exact hblank h
  · obtain ⟨facet, rfl⟩ := hmembers entry hentry
    cases hplain
  · exact h hfilter

end

end Request

namespace Auditor

theorem performProgram_always (a : Auditor) (ha : a.options.Usable) (t : Task) :
    (a.performProgram t).Always fun result => ∃ report, result = .ok report := by
  obtain ⟨wanted, hwanted⟩ := Option.ne_none_iff_exists'.mp ha.wanted
  apply CallProgram.always_bind
  intro found
  obtain ⟨budget, hbudget⟩ := a.exists_budget ha t found
  simp only [hbudget]
  apply CallProgram.always_bind
  intro findings
  rw [hwanted]
  exact ⟨_, rfl⟩

/-- An audit is rejected exactly when its request is refused, and then it is over before the first
call. Otherwise every course that it can take ends with a report. A plain name is refused even if it
reads like a facet; where the names of facets stand for facets, only the other names are. -/
theorem audit_rejected_iff (a : Auditor) (ha : a.options.Usable) (call : Nat) (code : String)
    (fileName : Option String) (facets : List Facet.Entry) (severity : String)
    (language : Option Dialect) :
    let r := Request.ofValues code fileName facets severity language
    ((∃ reason, (a.audit call r).report = .error (.request (.rejected reason))) ↔
        Request.Refused code facets severity) ∧
      (¬ Request.Refused code facets severity → ∃ report, (a.audit call r).report = .ok report) ∧
      (a.program r).run a call = ((a.audit call r).calls, (a.audit call r).report) ∧
      (Request.Refused code facets severity →
        ∃ reason, a.program r = .done (.error (.request (.rejected reason)))) ∧
      (¬ Request.Refused code facets severity →
        (a.program r).Always fun result => ∃ report, result = .ok report) ∧
      ∀ names : List String, facets = names.map Facet.Entry.ofName →
        (Request.Refused code facets severity ↔
          Text.trim code.toList = [] ∨ (∃ name ∈ names, name ∉ ["static", "ai", "standards"]) ∨
            String.ofList (Text.lower (Text.trim severity.toList)) ∉
              ["all", "critical", "high", "medium", "low"]) := by
  intro r
  have hnames (names : List String) (h : facets = names.map Facet.Entry.ofName) :=
    h ▸ Request.refused_map_ofName_iff code names severity
  have hrun := a.run_program call r
  rcases Request.accept_ofValues_cases code fileName facets severity language with
    ⟨hrefused, reason, hr⟩ | ⟨hrefused, t, hr⟩
  · have hprogram : a.program r = .done (.error (.request (.rejected reason))) := by
      rw [program, hr]
      rfl
    have hreport : (a.audit call r).report = .error (.request (.rejected reason)) := by
      rw [hprogram] at hrun
      exact (congrArg Prod.snd hrun).symm
    exact ⟨⟨fun _ => hrefused, fun _ => ⟨reason, hreport⟩⟩, fun h => absurd hrefused h, hrun,
      fun _ => ⟨reason, hprogram⟩, fun h => absurd hrefused h, hnames⟩
  · have hprogram : a.program r = a.performProgram t := by rw [program, hr]
    have halways : (a.program r).Always fun result => ∃ report, result = .ok report :=
      hprogram ▸ a.performProgram_always ha t
    obtain ⟨report, hreport⟩ : ∃ report, (a.audit call r).report = .ok report := by
      have hlast := halways.run a call
      rwa [hrun] at hlast
    refine ⟨⟨?_, fun h => absurd h hrefused⟩, fun _ => ⟨report, hreport⟩, hrun,
      fun h => absurd h hrefused, fun _ => halways, hnames⟩
    rintro ⟨reason, hrejected⟩
    rw [hreport] at hrejected
    cases hrejected

/-- With detectors that fail in each of the three ways, an extractor that stops and an enhancer that
never answers, there is a report on sensible requests, and others are turned down without a call. -/
theorem audit_rejected_iff_failing_collaborators :
    let failing : Detector :=
      { id := "failing", name := "Failing", severity := .high, description := ""
        trigger := fun _ => .error (.raised "trigger"), matcher := .literal [] }
    let a : Auditor :=
      { catalog := fun _ =>
          [failing,
            { failing with
              trigger := .when fun _ => true, locate := some fun _ => .error (.raised "") },
            { failing with
              trigger := .when fun _ => true, matcher := .custom fun _ => .error (.raised "") },
            { failing with trigger := .when fun _ => true }]
        extractor := fun d => ⟨"stops", d, fun _ => ⟨{ functions := ["f"] }, some "stopped"⟩⟩
        enhancer := some fun _ _ => none }
    (∃ report,
        (a.audit 0 (.ofValues "x" none [.member .static, .member .ai] " HIGH " none)).report =
          .ok report) ∧
      ∃ reason, a.program (.ofValues "x" (some "a.vy") [.plain "static"] "all" none) =
        .done (.error (.request (.rejected reason))) := by
  intro failing a
  have ha : a.options.Usable := AuditOptions.usable_default
  have hsensible : ¬ Request.Refused "x" [.member .static, .member .ai] " HIGH " := by
    decide +kernel
  have hrefused : Request.Refused "x" [.plain "static"] "all" := by decide +kernel
  exact ⟨(audit_rejected_iff a ha 0 "x" none _ " HIGH " none).2.1 hsensible,
    (audit_rejected_iff a ha 0 "x" (some "a.vy") _ "all" none).2.2.2.1 hrefused⟩

end Auditor

end ContractAudit
