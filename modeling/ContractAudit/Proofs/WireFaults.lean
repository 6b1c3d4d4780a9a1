import ContractAudit.Proofs.Acceptance

/-!
# Values of the wrong kind

A request as it arrives may hold any value under any name. Code that is no text and names that are
not known lead to a rejection. Four values end the audit with an error that is no rejection: facets
given as a number or a truth value, a language with a whole number that is too long to be shown, a
severity that is no text, and a file name that is no text when the dialect is to be told from it.
`Escapes` says exactly when this happens.
-/
namespace ContractAudit

namespace Json

def lookup (data : Json) (key : String) : Json :=
  orNull (data.get? key)

def isText : Json → Bool
  | str _ => true
  | _ => false

def isScalar : Json → Bool
  | bool _ => true
  | int _ => true
  | float _ => true
  | _ => false

theorem isText_iff {v : Json} : v.isText ↔ ∃ s, v = .str s := by
  cases v <;> simp [isText]

end Json

namespace Request

/-! ## Kinds of values -/

/-- The facets are missing, or each of them is known. -/
def FacetsKnown (v : Json) : Prop :=
  v = .null ∨ ∃ names, facetNames v = .ok names ∧
    ∀ name ∈ names, name ∈ [some "static", some "ai", some "standards"]

def LanguageUnwritable (v : Json) : Prop :=
  ¬ v.isEmpty ∧ ¬ v.isShowable

def LanguageKnown (v : Json) : Prop :=
  v.isEmpty ∨ v.isShowable ∧
    String.ofList (Text.lower v.shown.toList) ∈ ["solidity", "cairo", "vyper"]

def CodeGiven (v : Json) : Prop :=
  ∃ s, v = .str s ∧ Text.trim s.toList ≠ []

def FilterKnown (v : Json) : Prop :=
  v.isEmpty ∨ ∃ name, v = .str name ∧ Filter.Known name

def WrongKind (v : Json) : Prop :=
  ¬ v.isEmpty ∧ ¬ v.isText

structure Sensible (data : Json) : Prop where
  facets : FacetsKnown (data.lookup "analysisTypes")
  language : LanguageKnown (data.lookup "language")
  code : CodeGiven (data.lookup "contractCode")

/-- The faults of a request that are no reason to reject it. -/
inductive Escapes (data : Json) : RequestError → Prop
  | facets : (data.lookup "analysisTypes").isScalar → Escapes data .facetsNotListed
  | language : FacetsKnown (data.lookup "analysisTypes") →
    LanguageUnwritable (data.lookup "language") → Escapes data .unwritable
  | severity : Sensible data → WrongKind (data.lookup "severity") →
    Escapes data (.notText "severity")
  | fileName : Sensible data → FilterKnown (data.lookup "severity") →
    (data.lookup "language").isEmpty → WrongKind (data.lookup "fileName") →
    Escapes data (.notText "file name")

theorem FacetsKnown.not_isScalar {v : Json} (h : FacetsKnown v) : ¬ v.isScalar := by
  rcases h with rfl | ⟨names, hnames, -⟩
  · simp [Json.isScalar]
  · cases v <;> simp [Json.isScalar, facetNames] at hnames ⊢

theorem LanguageKnown.not_unwritable {v : Json} (h : LanguageKnown v) :
    ¬ LanguageUnwritable v := by
  rintro ⟨hgiven, hunwritable⟩
  rcases h with hempty | ⟨hshowable, -⟩
  · exact hgiven hempty
  · exact hunwritable hshowable

theorem FilterKnown.not_wrongKind {v : Json} (h : FilterKnown v) : ¬ WrongKind v := by
  rintro ⟨hgiven, htext⟩
  rcases h with hempty | ⟨name, rfl, -⟩
  · exact hgiven hempty
  · exact htext rfl

/-- Once a request is known to make sense so far, only two values are left to go wrong. -/
theorem Sensible.cases_of_escapes {data : Json} {e : RequestError} (h : Sensible data)
    (he : Escapes data e) :
    (WrongKind (data.lookup "severity") ∧ e = .notText "severity") ∨
      (FilterKnown (data.lookup "severity") ∧ (data.lookup "language").isEmpty ∧
        WrongKind (data.lookup "fileName") ∧ e = .notText "file name") := by
  cases he with
  | facets hscalar => exact absurd hscalar h.facets.not_isScalar
  | language _ hlanguage => exact absurd hlanguage h.language.not_unwritable
  | severity _ hwrong => exact .inl ⟨hwrong, rfl⟩
  | fileName _ hknown hempty hwrong => exact .inr ⟨hknown, hempty, hwrong, rfl⟩

namespace Escapes

variable {data : Json} {e e' : RequestError}

theorem ne_rejected (h : Escapes data e) (reason : Rejection) : e ≠ .rejected reason := by
  cases h <;> simp

/-- A request has at most one such fault, the first that is met. -/
theorem unique (h : Escapes data e) (h' : Escapes data e') : e = e' := by
  cases h with
  | facets hscalar =>
    cases h' with
    | facets => rfl
    | language hknown => exact absurd hscalar hknown.not_isScalar
    | severity hs => exact absurd hscalar hs.facets.not_isScalar
    | fileName hs => exact absurd hscalar hs.facets.not_isScalar
  | language hfacets hlanguage =>
    cases h' with
    | facets hscalar => exact absurd hscalar hfacets.not_isScalar
    | language => rfl
    | severity hs => exact absurd hlanguage hs.language.not_unwritable
    | fileName hs => exact absurd hlanguage hs.language.not_unwritable
  | severity hs hwrong =>
    rcases hs.cases_of_escapes h' with ⟨-, rfl⟩ | ⟨hknown, -⟩
    · rfl
    · exact absurd hwrong hknown.not_wrongKind
  | fileName hs hknown =>
    rcases hs.cases_of_escapes h' with ⟨hwrong, -⟩ | ⟨-, -, -, rfl⟩
    · exact absurd hwrong hknown.not_wrongKind
    · rfl

theorem not_of_not_sensible (hscalar : ¬ (data.lookup "analysisTypes").isScalar)
    (hlanguage : FacetsKnown (data.lookup "analysisTypes") →
      ¬ LanguageUnwritable (data.lookup "language"))
    (hsensible : ¬ Sensible data) : ¬ Escapes data e := by
  rintro (h | ⟨hfacets, hunwritable⟩ | ⟨hs, -⟩ | ⟨hs, -⟩)
  · exact hscalar h
  · exact hlanguage hfacets hunwritable
  · exact hsensible hs
  · exact hsensible hs

end Escapes

/-! ## Reading a request -/

theorem settleFacets_cases (sofar : List Facet) (names : List (Option String)) :
    ((∀ name ∈ names, name ∈ [some "static", some "ai", some "standards"]) ∧
        ∃ facets, settleFacets sofar names = .ok facets) ∨
      ∃ name ∈ names, name ∉ [some "static", some "ai", some "standards"] ∧
        ∃ reason, settleFacets sofar names = .error (.rejected reason) := by
  induction names generalizing sofar with
  | nil => exact .inl ⟨by simp, sofar, rfl⟩
  | cons name rest ih =>
    cases name with
    | none => exact .inr ⟨none, List.mem_cons_self, by simp, _, rfl⟩
    | some name =>
      have hname : (Facet.ofName? name).isSome ↔
          some name ∈ [some "static", some "ai", some "standards"] := by
        rw [Facet.ofName?_isSome_iff]
        simp
      cases hfacet : Facet.ofName? name with
      | none =>
        rw [hfacet] at hname
        refine .inr ⟨some name, List.mem_cons_self, by simpa using hname, ?_⟩
        exact ⟨.unknownFacetName name, by simp only [settleFacets, hfacet]⟩
      | some facet =>
        rw [hfacet] at hname
        simp only [settleFacets, hfacet]
        rcases ih _ with ⟨hrest, hok⟩ | ⟨unknown, hmem, hunknown, herror⟩
        · exact .inl ⟨List.forall_mem_cons.mpr ⟨hname.mp rfl, hrest⟩, hok⟩
        · exact .inr ⟨unknown, List.mem_cons_of_mem _ hmem, hunknown, herror⟩

theorem readFacets_eq_bind {v : Json} (hv : v ≠ .null) :
    readFacets (some v) = facetNames v >>= settleFacets [] := by
  cases v with
  | null => exact absurd rfl hv
  | _ => rfl

theorem facetNames_cases {v : Json} (hv : v ≠ .null) :
    (v.isScalar ∧ facetNames v = .error .facetsNotListed) ∨
      (¬ v.isScalar ∧ ∃ names, facetNames v = .ok names) := by
  cases v with
  | null => exact absurd rfl hv
  | bool _ | int _ | float _ => exact .inl ⟨rfl, rfl⟩
  | str _ | arr _ | obj _ => exact .inr ⟨by simp [Json.isScalar], _, rfl⟩

theorem readFacets_cases (v : Json) :
    (v.isScalar ∧ readFacets (some v) = .error .facetsNotListed) ∨
      (FacetsKnown v ∧ ∃ facets, readFacets (some v) = .ok facets) ∨
      (¬ FacetsKnown v ∧ ¬ v.isScalar ∧
        ∃ reason, readFacets (some v) = .error (.rejected reason)) := by
  by_cases hnull : v = .null
  · subst hnull
    exact .inr (.inl ⟨.inl rfl, _, rfl⟩)
  rw [readFacets_eq_bind hnull]
  rcases facetNames_cases hnull with ⟨hscalar, hnames⟩ | ⟨hscalar, names, hnames⟩
  · exact .inl ⟨hscalar, by rw [hnames]; rfl⟩
  have hread : (facetNames v >>= settleFacets []) = settleFacets [] names := by
    rw [hnames]
    rfl
  rw [hread]
  rcases settleFacets_cases [] names with ⟨hknown, hok⟩ | ⟨name, hmem, hunknown, herror⟩
  · exact .inr (.inl ⟨.inr ⟨names, hnames, hknown⟩, hok⟩)
  · refine .inr (.inr ⟨?_, hscalar, herror⟩)
    rintro (h | ⟨names', hnames', hknown⟩)
    · exact hnull h
    · obtain rfl : names = names' := by simpa [hnames] using hnames'
      exact hunknown (hknown name hmem)

theorem readLanguage_cases (v : Json) :
    (LanguageUnwritable v ∧ readLanguage v = .error .unwritable) ∨
      (LanguageKnown v ∧ ∃ language, readLanguage v = .ok language ∧
        (language = none ↔ v.isEmpty)) ∨
      (¬ LanguageKnown v ∧ ¬ LanguageUnwritable v ∧
        ∃ reason, readLanguage v = .error (.rejected reason)) := by
  have hnames : ["solidity", "cairo", "vyper"] = Dialect.all.map Dialect.name := rfl
  unfold LanguageKnown LanguageUnwritable readLanguage Dialect.ofName Json.shown?
  by_cases hempty : v.isEmpty
  · exact .inr (.inl ⟨.inl hempty, none, by simp [hempty], by simp [hempty]⟩)
  by_cases hshowable : v.isShowable
  case neg => exact .inl ⟨⟨hempty, hshowable⟩, by simp [hempty, hshowable]⟩
  simp only [hempty, hshowable, Bool.false_eq_true, if_false, if_true, true_and, false_or]
  generalize String.ofList (Text.lower v.shown.toList) = key
  rw [hnames]
  rcases find?_name_cases Dialect.all Dialect.name key with ⟨hmem, d, hfind⟩ | ⟨hmem, hfind⟩
  · exact .inr (.inl ⟨hmem, some d, by simp [hfind], by simp⟩)
  · exact .inr (.inr ⟨hmem, by simp, _, by rw [hfind]⟩)

structure ReadFrom (data : Json) (r : Request) : Prop where
  code : r.code = orElse (data.get? "contractCode") (.str "")
  fileName : r.fileName = orElse (data.get? "fileName") .null
  severity : r.severity = orElse (data.get? "severity") (.str Filter.keepAll)
  facets : ∀ entry ∈ r.facets, ∃ facet, entry = .member facet
  language : r.language = none ↔ (data.lookup "language").isEmpty

theorem readFacets_get? (data : Json) (key : String) :
    readFacets (data.get? key) = readFacets (some (data.lookup key)) := by
  unfold Json.lookup
  cases data.get? key <;> rfl

theorem ofJson_cases (data : Json) :
    (∃ e, Escapes data e ∧ ofJson data = .error e) ∨
      (FacetsKnown (data.lookup "analysisTypes") ∧ LanguageKnown (data.lookup "language") ∧
        ∃ r, ofJson data = .ok r ∧ ReadFrom data r) ∨
      ((∀ e, ¬ Escapes data e) ∧ ∃ reason, ofJson data = .error (.rejected reason)) := by
  have hread : ofJson data = (readFacets (some (data.lookup "analysisTypes")) >>= fun facets =>
      readLanguage (data.lookup "language") >>= fun language =>
        .ok { code := orElse (data.get? "contractCode") (.str "")
              fileName := orElse (data.get? "fileName") .null
              facets := facets.map .member
              severity := orElse (data.get? "severity") (.str Filter.keepAll)
              language := language }) := by
    rw [← readFacets_get?]
    rfl
  rcases readFacets_cases (data.lookup "analysisTypes") with
    ⟨hscalar, hfacets⟩ | ⟨hknown, facets, hfacets⟩ | ⟨hunknown, hscalar, reason, hfacets⟩
  · exact .inl ⟨_, .facets hscalar, by rw [hread, hfacets]; rfl⟩
  · rcases readLanguage_cases (data.lookup "language") with
      ⟨hunwritable, herror⟩ | ⟨hlanguage, language, hok, hnone⟩ |
        ⟨hlanguage, hwritable, reason, herror⟩
    · exact .inl ⟨_, .language hknown hunwritable, by rw [hread, hfacets, herror]; rfl⟩
    · have hok' := hread
      rw [hfacets, hok] at hok'
      have hmembers : ∀ entry ∈ facets.map Facet.Entry.member, ∃ facet, entry = .member facet := by
        intro entry hentry
        obtain ⟨facet, -, rfl⟩ := List.mem_map.mp hentry
        exact ⟨facet, rfl⟩
      exact .inr (.inl ⟨hknown, hlanguage, _, hok', rfl, rfl, rfl, hmembers, hnone⟩)
    · refine .inr (.inr ⟨fun _ => ?_, reason, by rw [hread, hfacets, herror]; rfl⟩)
      exact Escapes.not_of_not_sensible hknown.not_isScalar (fun _ => hwritable)
        fun hs => hlanguage hs.language
  · refine .inr (.inr ⟨fun _ => ?_, reason, by rw [hread, hfacets]; rfl⟩)
    exact Escapes.not_of_not_sensible hscalar (fun hfacets => absurd hfacets hunknown)
      fun hs => hunknown hs.facets

theorem orElse_get? (data : Json) (key : String) (fallback : Json) :
    orElse (data.get? key) fallback =
      if (data.lookup key).isEmpty then fallback else data.lookup key := by
  unfold Json.lookup
  cases data.get? key <;> rfl

/-! ## Accepting it -/

namespace ReadFrom

variable {data : Json} {r : Request}

theorem codeText_cases (h : ReadFrom data r) :
    (CodeGiven (data.lookup "contractCode") ∧ ∃ code, r.codeText = .ok code) ∨
      (¬ CodeGiven (data.lookup "contractCode") ∧
        r.codeText = .error (.rejected .codeRequired)) := by
  have hcode := h.code
  rw [orElse_get?] at hcode
  generalize data.lookup "contractCode" = v at hcode ⊢
  by_cases hempty : v.isEmpty
  · rw [if_pos hempty] at hcode
    refine .inr ⟨?_, by simp [codeText, hcode, Text.isBlankText]⟩
    rintro ⟨s, rfl, hs⟩
    have hs' : s = "" := by simpa [Json.isEmpty] using hempty
    exact hs (by subst hs'; decide)
  rw [if_neg hempty] at hcode
  by_cases htext : v.isText
  · obtain ⟨s, rfl⟩ := Json.isText_iff.mp htext
    rcases codeText_of_str hcode with ⟨hblank, herror⟩ | ⟨hblank, hok⟩
    · refine .inr ⟨?_, herror⟩
      rintro ⟨s', hs, hne⟩
      cases hs
      exact hne hblank
    · exact .inl ⟨⟨s, rfl, hblank⟩, s, hok⟩
  · refine .inr ⟨?_, ?_⟩
    · rintro ⟨s, rfl, -⟩
      exact htext rfl
    · cases v with
      | str _ => exact absurd rfl htext
      | _ => simp [codeText, hcode]

theorem exists_checkFacets (h : ReadFrom data r) : ∃ facets, checkFacets r.facets = .ok facets := by
  rcases checkFacets_cases r.facets with ⟨-, hok⟩ | ⟨name, hmem, -⟩
  · exact hok
  · obtain ⟨facet, hfacet⟩ := h.facets _ hmem
    cases hfacet

theorem checkSeverity_cases (h : ReadFrom data r) :
    (WrongKind (data.lookup "severity") ∧ r.checkSeverity = .error (.notText "severity")) ∨
      (FilterKnown (data.lookup "severity") ∧ ∃ least, r.checkSeverity = .ok least) ∨
      (¬ WrongKind (data.lookup "severity") ∧ ¬ FilterKnown (data.lookup "severity") ∧
        ∃ reason, r.checkSeverity = .error (.rejected reason)) := by
  have hseverity := h.severity
  rw [orElse_get?] at hseverity
  generalize data.lookup "severity" = v at hseverity ⊢
  by_cases hempty : v.isEmpty
  · rw [if_pos hempty] at hseverity
    have hall : Filter.Known Filter.keepAll := by decide +kernel
    rcases checkSeverity_of_str hseverity with ⟨-, hok⟩ | ⟨hunknown, -⟩
    · exact .inr (.inl ⟨.inl hempty, hok⟩)
    · exact absurd hall hunknown
  rw [if_neg hempty] at hseverity
  cases v with
  | str name =>
    rcases checkSeverity_of_str hseverity with ⟨hknown, hok⟩ | ⟨hunknown, herror⟩
    · exact .inr (.inl ⟨.inr ⟨name, rfl, hknown⟩, hok⟩)
    · refine .inr (.inr ⟨fun hwrong => hwrong.2 rfl, ?_, _, herror⟩)
      rintro (h | ⟨name', hname, hknown⟩)
      · exact hempty h
      · cases hname
        exact hunknown hknown
  | _ => exact .inl ⟨⟨hempty, by simp [Json.isText]⟩, by simp [checkSeverity, hseverity]⟩

theorem resolveDialect_cases (h : ReadFrom data r) (code : String) :
    (((data.lookup "language").isEmpty ∧ WrongKind (data.lookup "fileName")) ∧
        r.resolveDialect code = .error (.notText "file name")) ∨
      (¬ ((data.lookup "language").isEmpty ∧ WrongKind (data.lookup "fileName")) ∧
        ∃ d, r.resolveDialect code = .ok d) := by
  have hfileName := h.fileName
  rw [orElse_get?] at hfileName
  unfold resolveDialect
  cases hlanguage : r.language with
  | some d =>
    refine .inr ⟨?_, d, rfl⟩
    rintro ⟨hempty, -⟩
    rw [h.language.mpr hempty] at hlanguage
    cases hlanguage
  | none =>
    have hmissing := h.language.mp hlanguage
    generalize data.lookup "fileName" = v at hfileName ⊢
    by_cases hempty : v.isEmpty
    · rw [if_pos hempty] at hfileName
      exact .inr ⟨fun hboth => hboth.2.1 hempty, _, by simp [hfileName, Json.isEmpty]; rfl⟩
    rw [if_neg hempty] at hfileName
    cases v with
    | str name => exact .inr ⟨fun hboth => hboth.2.2 rfl, _, by simp [hfileName, hempty]; rfl⟩
    | _ => exact .inl ⟨⟨hmissing, hempty, by simp [Json.isText]⟩, by simp [hfileName, hempty]⟩

end ReadFrom

def Fails (data : Json) (e : RequestError) : Prop :=
  ofJson data = .error e ∨ ∃ r, ofJson data = .ok r ∧ r.accept = .error e

/-- A request either has a fault that escapes, and fails with it, or it has none and is rejected or
accepted. -/
theorem fails_or_accepts (data : Json) :
    (∃ e, Escapes data e ∧ Fails data e) ∨
      ((∀ e, ¬ Escapes data e) ∧ ((∃ reason, Fails data (.rejected reason)) ∨
        ∃ r t, ofJson data = .ok r ∧ r.accept = .ok t)) := by
  rcases ofJson_cases data with
    ⟨e, hescapes, hread⟩ | ⟨hfacets, hlanguage, r, hread, hr⟩ | ⟨hnone, reason, hread⟩
  · exact .inl ⟨e, hescapes, .inl hread⟩
  case inr.inr => exact .inr ⟨hnone, .inl ⟨reason, .inl hread⟩⟩
  have hfail {e : RequestError} (he : r.accept = .error e) : Fails data e := .inr ⟨r, hread, he⟩
  rcases hr.codeText_cases with ⟨hgiven, code, hcode⟩ | ⟨hgiven, hcode⟩
  case inr =>
    have hsensible : ¬ Sensible data := fun hs => hgiven hs.code
    have hnone (e : RequestError) : ¬ Escapes data e :=
      Escapes.not_of_not_sensible hfacets.not_isScalar (fun _ => hlanguage.not_unwritable) hsensible
    exact .inr ⟨hnone, .inl ⟨_, hfail (accept_eq_error_iff.mpr (.inl hcode))⟩⟩
  have hsensible : Sensible data := ⟨hfacets, hlanguage, hgiven⟩
  obtain ⟨facets, hchecked⟩ := hr.exists_checkFacets
  have hlate {e : RequestError} (he : r.checkSeverity = .error e ∨ ∃ threshold,
      r.checkSeverity = .ok threshold ∧ r.resolveDialect code = .error e) : Fails data e :=
    hfail (accept_eq_error_iff.mpr (.inr ⟨code, hcode, .inr ⟨facets, hchecked, he⟩⟩))
  rcases hr.checkSeverity_cases with
    ⟨hwrong, hseverity⟩ | ⟨hknown, least, hseverity⟩ | ⟨hwrong, hunknown, reason, hseverity⟩
  · exact .inl ⟨_, .severity hsensible hwrong, hlate (.inl hseverity)⟩
  · rcases hr.resolveDialect_cases code with ⟨⟨hempty, hname⟩, hdialect⟩ | ⟨hname, d, hdialect⟩
    · exact .inl ⟨_, .fileName hsensible hknown hempty hname,
        hlate (.inr ⟨least, hseverity, hdialect⟩)⟩
    · refine .inr ⟨?_, .inr ⟨r, ⟨code, _, d, facets, least⟩, hread,
        accept_eq_ok_iff.mpr ⟨hcode, hchecked, hseverity, hdialect, rfl⟩⟩⟩
      intro e h
      rcases hsensible.cases_of_escapes h with ⟨hwrong, -⟩ | ⟨-, hempty, hwrong, -⟩
      · exact hknown.not_wrongKind hwrong
      · exact hname ⟨hempty, hwrong⟩
  · refine .inr ⟨?_, .inl ⟨reason, hlate (.inl hseverity)⟩⟩
    intro e h
    rcases hsensible.cases_of_escapes h with ⟨hwrong', -⟩ | ⟨hknown, -⟩
    · exact hwrong hwrong'
    · exact hunknown hknown

end Request

namespace Auditor

theorem auditJson_report_of_fails (a : Auditor) (call : Nat) {data : Json} {e : RequestError}
    (h : Request.Fails data e) : (a.auditJson call data).report = .error (.request e) := by
  unfold auditJson
  rcases h with hread | ⟨r, hread, hr⟩
  · simp only [hread]
  · simp only [hread, audit_of_reject a call hr]

/-- An audit of a request as it arrives ends with an error that is no rejection exactly when a fault
of the request escapes, and it is that fault. In every other case it ends with a report or a
rejection. -/
theorem auditJson_escapes_iff (a : Auditor) (ha : a.options.Usable) (call : Nat)
    (members : List (String × Json)) :
    let data := Json.obj members
    let report := (a.auditJson call data).report
    (∀ e, Request.Escapes data e ↔
        report = .error (.request e) ∧ ∀ reason, e ≠ .rejected reason) ∧
      ((∀ e, ¬ Request.Escapes data e) ↔
        (∃ R, report = .ok R) ∨ ∃ reason, report = .error (.request (.rejected reason))) := by
  intro data report
  rcases Request.fails_or_accepts data with
    ⟨e, hescapes, hfails⟩ | ⟨hnone, ⟨reason, hfails⟩ | ⟨r, t, hread, hr⟩⟩
  · have hreport : report = .error (.request e) := a.auditJson_report_of_fails call hfails
    refine ⟨fun e' => ⟨?_, ?_⟩, ?_, ?_⟩
    · intro h
      obtain rfl := hescapes.unique h
      exact ⟨hreport, h.ne_rejected⟩
    · rintro ⟨he, -⟩
      rw [hreport] at he
      cases he
      exact hescapes
    · exact fun h => absurd hescapes (h e)
    · rintro (⟨R, hR⟩ | ⟨reason, hreason⟩)
      · rw [hreport] at hR
        cases hR
      · rw [hreport] at hreason
        cases hreason
        exact absurd rfl (hescapes.ne_rejected reason)
  · have hreport : report = .error (.request (.rejected reason)) :=
      a.auditJson_report_of_fails call hfails
    refine ⟨fun e => ⟨fun h => absurd h (hnone e), ?_⟩, fun _ => .inr ⟨reason, hreport⟩,
      fun _ => hnone⟩
    rintro ⟨he, hne⟩
    rw [hreport] at he
    cases he
    exact absurd rfl (hne reason)
  · obtain ⟨wanted, findings, haudit, -⟩ := a.exists_report_of_accept ha call hr
    have hreport : report = .ok (assemble t wanted findings) := by
      simpa only [report, auditJson, hread] using haudit
    refine ⟨fun e => ⟨fun h => absurd h (hnone e), ?_⟩, fun _ => .inl ⟨_, hreport⟩, fun _ => hnone⟩
    rintro ⟨he, -⟩
    rw [hreport] at he
    cases he

/-- A severity given as a number is neither analysed nor rejected. -/
theorem auditJson_escapes_iff_numeric_severity :
    let a : Auditor := { extractor := Structure.extractorOf fun _ => .error "no parser" }
    let data := Json.obj [("contractCode", .str "x"), ("severity", .int 5)]
    Request.Escapes data (.notText "severity") ∧
      (a.auditJson 0 data).report = .error (.request (.notText "severity")) := by
  intro a data
  have hescapes : Request.Escapes data (.notText "severity") :=
    .severity ⟨.inl rfl, .inl rfl, "x", rfl, by decide⟩ ⟨by decide, by decide⟩
  exact ⟨hescapes, (((auditJson_escapes_iff a AuditOptions.usable_default 0 _).1 _).mp hescapes).1⟩

end Auditor

end ContractAudit
