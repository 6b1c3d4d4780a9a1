import ContractAudit.Proofs.Noninterference
import Mathlib.Data.List.TakeWhile

/-!
# Accepted requests lead to reports

A request is looked at in four steps, and the first one that finds a fault decides. An audit with
usable options has no other way to end without a report. This says nothing about the collaborators,
since nothing that they do ends an audit.
-/
namespace ContractAudit

/-! ## The steps of acceptance -/

section Steps

variable {ε α β : Type} {x : Except ε α} {f : α → Except ε β}

theorem bind_eq_ok_iff {b : β} : (x >>= f) = .ok b ↔ ∃ a, x = .ok a ∧ f a = .ok b := by
  cases x <;> simp [bind, Except.bind]

theorem bind_eq_error_iff {e : ε} :
    (x >>= f) = .error e ↔ x = .error e ∨ ∃ a, x = .ok a ∧ f a = .error e := by
  cases x <;> simp [bind, Except.bind]

end Steps

namespace Request

theorem accept_eq_ok_iff {r : Request} {t : Task} :
    r.accept = .ok t ↔
      r.codeText = .ok t.code ∧ checkFacets r.facets = .ok t.facets ∧
        r.checkSeverity = .ok t.threshold ∧ r.resolveDialect t.code = .ok t.dialect ∧
        r.displayName = t.fileName := by
  simp only [accept, validate, bind_eq_ok_iff, pure, Except.pure, Except.ok.injEq]
  constructor
  · rintro ⟨_, ⟨code, hcode, facets, hfacets, threshold, hthreshold, rfl⟩, dialect, hdialect, rfl⟩
    exact ⟨hcode, hfacets, hthreshold, hdialect, rfl⟩
  · rintro ⟨hcode, hfacets, hthreshold, hdialect, hname⟩
    exact ⟨_, ⟨_, hcode, _, hfacets, _, hthreshold, rfl⟩, _, hdialect, by rw [hname]⟩

theorem accept_eq_error_iff {r : Request} {e : RequestError} :
    r.accept = .error e ↔
      r.codeText = .error e ∨ ∃ code, r.codeText = .ok code ∧
        (checkFacets r.facets = .error e ∨ ∃ facets, checkFacets r.facets = .ok facets ∧
          (r.checkSeverity = .error e ∨ ∃ threshold, r.checkSeverity = .ok threshold ∧
            r.resolveDialect code = .error e)) := by
  simp only [accept, validate, bind_eq_error_iff, bind_eq_ok_iff, pure, Except.pure,
    Except.ok.injEq, reduceCtorEq, and_false, exists_false, or_false]
  constructor
  · rintro ((hcode | ⟨code, hcode, hfacets | ⟨facets, hfacets, hthreshold⟩⟩) |
      ⟨_, ⟨code, hcode, facets, hfacets, threshold, hthreshold, rfl⟩, hdialect⟩)
    · exact .inl hcode
    · exact .inr ⟨code, hcode, .inl hfacets⟩
    · exact .inr ⟨code, hcode, .inr ⟨facets, hfacets, .inl hthreshold⟩⟩
    · exact .inr ⟨code, hcode, .inr ⟨facets, hfacets, .inr ⟨threshold, hthreshold, hdialect⟩⟩⟩
  · rintro (hcode | ⟨code, hcode, hfacets | ⟨facets, hfacets, hthreshold |
      ⟨threshold, hthreshold, hdialect⟩⟩⟩)
    · exact .inl (.inl hcode)
    · exact .inl (.inr ⟨code, hcode, .inl hfacets⟩)
    · exact .inl (.inr ⟨code, hcode, .inr ⟨facets, hfacets, hthreshold⟩⟩)
    · exact .inr ⟨_, ⟨code, hcode, facets, hfacets, threshold, hthreshold, rfl⟩, hdialect⟩

end Request

/-! ## What each step refuses -/

/-- A key is looked up among names. It is found just when it is one of them. -/
theorem find?_name_cases {α : Type} (all : List α) (name : α → String) (key : String) :
    (key ∈ all.map name ∧ ∃ x, all.find? (fun x => name x == key) = some x) ∨
      (key ∉ all.map name ∧ all.find? (fun x => name x == key) = none) := by
  cases hfind : all.find? fun x => name x == key with
  | some x =>
    have hx : name x = key := by simpa using List.find?_some hfind
    exact .inl ⟨List.mem_map.mpr ⟨x, List.mem_of_find?_eq_some hfind, hx⟩, x, rfl⟩
  | none =>
    refine .inr ⟨?_, rfl⟩
    intro hkey
    obtain ⟨x, hx, rfl⟩ := List.mem_map.mp hkey
    exact absurd (by simp) (List.find?_eq_none.mp hfind x hx)

theorem Text.trim_eq_nil_iff (t : Text) : Text.trim t = [] ↔ Text.isBlankText t := by
  have hend (u : Text) : Text.trimEnd u = [] ↔ ∀ c ∈ u, Text.isBlank c := by
    simp [Text.trimEnd, List.dropWhile_eq_nil_iff]
  rw [Text.trim, hend, Text.isBlankText, List.all_eq_true]
  constructor
  · intro hrest c hc
    rw [← List.takeWhile_append_dropWhile (p := Text.isBlank) (l := t)] at hc
    rcases List.mem_append.mp hc with htaken | hrest'
    · exact List.mem_takeWhile_imp htaken
    · exact hrest c hrest'
  · intro hall c hc
    exact hall c ((List.dropWhile_sublist _).mem hc)

theorem Facet.ofName?_isSome_iff (name : String) :
    (Facet.ofName? name).isSome ↔ name ∈ ["static", "ai", "standards"] := by
  have hnames : ["static", "ai", "standards"] = Facet.all.map Facet.name := rfl
  rw [hnames, Facet.ofName?]
  rcases find?_name_cases Facet.all Facet.name name with ⟨hmem, facet, hfind⟩ | ⟨hmem, hfind⟩
  · simp [hmem, hfind]
  · simp [hmem, hfind]

def Filter.Known (name : String) : Prop :=
  String.ofList (Text.lower (Text.trim name.toList)) ∈ ["all", "critical", "high", "medium", "low"]

instance (name : String) : Decidable (Filter.Known name) :=
  inferInstanceAs (Decidable (_ ∈ _))

theorem Filter.threshold_cases (name : String) :
    (Known name ∧ ∃ least, threshold name = .ok least) ∨
      (¬ Known name ∧ threshold name = .error ⟨name⟩) := by
  unfold Known threshold
  generalize String.ofList (Text.lower (Text.trim name.toList)) = key
  have hnames : ["all", "critical", "high", "medium", "low"] = "all" :: severities.map nameOf := by
    decide
  rw [hnames, List.mem_cons]
  by_cases hall : key = "all"
  · exact .inl ⟨.inl hall, none, by simp [hall, keepAll]⟩
  rcases find?_name_cases severities nameOf key with ⟨hmem, least, hfind⟩ | ⟨hmem, hfind⟩
  · exact .inl ⟨.inr hmem, some least, by simp [hall, keepAll, hfind]⟩
  · exact .inr ⟨by simp [hall, hmem], by simp [hall, keepAll, hfind]⟩

namespace Request

theorem codeText_of_str {r : Request} {s : String} (hr : r.code = .str s) :
    (Text.trim s.toList = [] ∧ r.codeText = .error (.rejected .codeRequired)) ∨
      (Text.trim s.toList ≠ [] ∧ r.codeText = .ok s) := by
  unfold codeText
  rw [ne_eq, Text.trim_eq_nil_iff, hr]
  by_cases hblank : Text.isBlankText s.toList
  · exact .inl ⟨hblank, by simp [hblank]⟩
  · exact .inr ⟨hblank, by simp [hblank]⟩

theorem checkFacets_cases (entries : List Facet.Entry) :
    ((∀ entry ∈ entries, ∃ facet, entry = .member facet) ∧
        ∃ facets, checkFacets entries = .ok facets) ∨
      ∃ name, .plain name ∈ entries ∧
        checkFacets entries = .error (.rejected (.unknownFacet name)) := by
  induction entries with
  | nil => exact .inl ⟨by simp, [], rfl⟩
  | cons entry rest ih =>
    cases entry with
    | plain name => exact .inr ⟨name, List.mem_cons_self, rfl⟩
    | member facet =>
      rcases ih with ⟨hrest, facets, hok⟩ | ⟨name, hmem, herror⟩
      · refine .inl ⟨List.forall_mem_cons.mpr ⟨⟨facet, rfl⟩, hrest⟩, facet :: facets, ?_⟩
        simp [checkFacets, Facet.Entry.facet?, hok, bind, Except.bind, pure, Except.pure]
      · refine .inr ⟨name, List.mem_cons_of_mem _ hmem, ?_⟩
        simp [checkFacets, Facet.Entry.facet?, herror, bind, Except.bind]

theorem checkSeverity_of_str {r : Request} {name : String} (hr : r.severity = .str name) :
    (Filter.Known name ∧ ∃ least, r.checkSeverity = .ok least) ∨
      (¬ Filter.Known name ∧ r.checkSeverity = .error (.rejected (.unknownFilter ⟨name⟩))) := by
  unfold checkSeverity
  rw [hr]
  rcases Filter.threshold_cases name with ⟨hknown, least, hleast⟩ | ⟨hunknown, herror⟩
  · exact .inl ⟨hknown, least, by simp [hleast]⟩
  · exact .inr ⟨hunknown, by simp [herror]⟩

end Request

/-! ## From a task to its report -/

structure AuditOptions.Usable (options : AuditOptions) : Prop where
  limit : options.limit ≠ .unusable
  wanted : options.wanted ≠ none

theorem AuditOptions.usable_default : AuditOptions.Usable {} :=
  ⟨by decide, by simp⟩

theorem Enhancement.Limit.exists_budget? {limit : Limit} (h : limit ≠ .unusable) (serious : Nat) :
    ∃ n, limit.budget? serious = some n := by
  cases limit with
  | first n => exact ⟨_, rfl⟩
  | unlimited => exact ⟨_, rfl⟩
  | unusable => exact absurd rfl h

namespace Auditor

theorem exists_budget (a : Auditor) (ha : a.options.Usable) (t : Task) (findings : List Finding) :
    ∃ n, a.budget t findings = .ok n := by
  unfold budget
  cases a.activeEnhancer t with
  | none => exact ⟨0, rfl⟩
  | some enhancer =>
    obtain ⟨n, hn⟩ := Enhancement.Limit.exists_budget? ha.limit
      (findings.countP Enhancement.isSerious)
    exact ⟨n, by rw [hn]⟩

theorem exists_perform_report (a : Auditor) (ha : a.options.Usable) (call : Nat) (t : Task) :
    ∃ limit wanted, (a.perform call t).report = .ok (assemble t wanted
      (Filter.apply t.threshold (a.enhanced t call limit (a.staticFindings t)))) := by
  obtain ⟨limit, hlimit⟩ := a.exists_budget ha t (a.staticFindings t)
  obtain ⟨wanted, hwanted⟩ := Option.ne_none_iff_exists'.mp ha.wanted
  exact ⟨limit, wanted, by simp only [perform, hlimit, hwanted]⟩

theorem map_fixedPart_enhanced (a : Auditor) (t : Task) (call limit : Nat)
    (findings : List Finding) :
    (a.enhanced t call limit findings).map Finding.fixedPart = findings.map Finding.fixedPart := by
  unfold enhanced
  cases a.activeEnhancer t with
  | none => rfl
  | some enhancer =>
    simp only [Enhancement.run_eq_mapIdx]
    exact map_fixedPart_mapIdx_improve findings _

theorem audit_of_accept (a : Auditor) (call : Nat) {r : Request} {t : Task}
    (hr : r.accept = .ok t) : a.audit call r = a.perform call t := by
  simp only [audit, hr]

theorem audit_of_reject (a : Auditor) (call : Nat) {r : Request} {e : RequestError}
    (hr : r.accept = .error e) : a.audit call r = ⟨[], .error (.request e)⟩ := by
  simp only [audit, hr]

/-- What an audit reports on, but for the texts of a collaborator: the static findings that are
severe enough. -/
theorem exists_report_of_accept (a : Auditor) (ha : a.options.Usable) (call : Nat) {r : Request}
    {t : Task} (hr : r.accept = .ok t) :
    ∃ wanted findings, (a.audit call r).report = .ok (assemble t wanted findings) ∧
      findings.map Finding.fixedPart =
        (Filter.apply t.threshold (a.staticFindings t)).map Finding.fixedPart := by
  obtain ⟨limit, wanted, hreport⟩ := a.exists_perform_report ha call t
  rw [← audit_of_accept a call hr] at hreport
  refine ⟨wanted, _, hreport, ?_⟩
  rw [← Filter.apply_map_fixedPart, ← Filter.apply_map_fixedPart, map_fixedPart_enhanced]

end Auditor

end ContractAudit
