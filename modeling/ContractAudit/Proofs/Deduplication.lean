import ContractAudit.Finding

/-!
# What deduplication keeps

A finding is kept exactly when no earlier one has its key. So every key that is reported at all is
reported by its first finding: `exists_mem_deduplicate` gives that finding for any other one with
the same key, together with whatever relation holds between earlier and later findings of one key.
Lists can be taken one after the other: only the keys kept of the first matter to the second.
-/
namespace ContractAudit.Finding

theorem dedupAfter_sublist (seen : List (String × Int)) (findings : List Finding) :
    (dedupAfter seen findings).Sublist findings := by
  induction findings generalizing seen with
  | nil => simp [dedupAfter]
  | cons f rest ih =>
    unfold dedupAfter
    split
    · exact (ih seen).cons f
    · exact (ih (f.key :: seen)).cons_cons f

theorem mem_of_mem_deduplicate {f : Finding} {findings : List Finding}
    (hf : f ∈ deduplicate findings) : f ∈ findings :=
  (dedupAfter_sublist [] findings).mem hf

/-- Kept are the findings whose key is new both to `seen` and to what stands before them. -/
theorem mem_dedupAfter_iff {seen : List (String × Int)} {f : Finding} {findings : List Finding} :
    f ∈ dedupAfter seen findings ↔
      ∃ before after, findings = before ++ f :: after ∧ f.key ∉ seen ∧
        ∀ g ∈ before, g.key ≠ f.key := by
  induction findings generalizing seen with
  | nil => simp [dedupAfter]
  | cons first rest ih =>
    by_cases hseen : first.key ∈ seen
    · rw [dedupAfter, if_pos (by simpa using hseen), ih]
      constructor
      · rintro ⟨before, after, rfl, hnew, hbefore⟩
        refine ⟨first :: before, after, rfl, hnew, List.forall_mem_cons.mpr ⟨?_, hbefore⟩⟩
        intro hkey
        exact hnew (hkey ▸ hseen)
      · rintro ⟨before, after, hsplit, hnew, hbefore⟩
        cases before with
        | nil =>
          obtain ⟨rfl, rfl⟩ := List.cons.inj hsplit
          exact absurd hseen hnew
        | cons g before =>
          obtain ⟨rfl, rfl⟩ := List.cons.inj hsplit
          exact ⟨before, after, rfl, hnew, (List.forall_mem_cons.mp hbefore).2⟩
    · rw [dedupAfter, if_neg (by simpa using hseen), List.mem_cons, ih]
      constructor
      · rintro (rfl | ⟨before, after, rfl, hnew, hbefore⟩)
        · exact ⟨[], rest, rfl, hseen, by simp⟩
        · simp only [List.mem_cons, not_or] at hnew
          exact ⟨first :: before, after, rfl, hnew.2,
            List.forall_mem_cons.mpr ⟨fun hkey => hnew.1 hkey.symm, hbefore⟩⟩
      · rintro ⟨before, after, hsplit, hnew, hbefore⟩
        cases before with
        | nil => exact Or.inl (List.cons.inj hsplit).1.symm
        | cons g before =>
          obtain ⟨rfl, rfl⟩ := List.cons.inj hsplit
          obtain ⟨hfirst, hrest⟩ := List.forall_mem_cons.mp hbefore
          refine Or.inr ⟨before, after, rfl, ?_, hrest⟩
          simp [hfirst.symm, hnew]

theorem mem_deduplicate_iff {f : Finding} {findings : List Finding} :
    f ∈ deduplicate findings ↔
      ∃ before after, findings = before ++ f :: after ∧ ∀ g ∈ before, g.key ≠ f.key := by
  simp [deduplicate, mem_dedupAfter_iff]

/-- Every finding has a kept one in its place: itself, or an earlier one with its key. -/
theorem exists_mem_deduplicate {findings : List Finding} {R : Finding → Finding → Prop}
    (hR : findings.Pairwise fun g f => g.key = f.key → R g f) (hrefl : ∀ f, R f f) {f : Finding}
    (hf : f ∈ findings) : ∃ g ∈ deduplicate findings, g.key = f.key ∧ R g f := by
  have hfound : (findings.find? fun g => g.key == f.key).isSome :=
    List.find?_isSome.mpr ⟨f, hf, by simp⟩
  obtain ⟨g, hg⟩ := Option.isSome_iff_exists.mp hfound
  obtain ⟨hkey, before, after, rfl, hbefore⟩ := List.find?_eq_some_iff_append.mp hg
  replace hkey : g.key = f.key := by simpa using hkey
  have hfirst : ∀ h ∈ before, h.key ≠ g.key := by simpa [hkey] using hbefore
  refine ⟨g, mem_deduplicate_iff.mpr ⟨before, after, rfl, hfirst⟩, hkey, ?_⟩
  have hplace : f = g ∨ f ∈ after := by
    rcases List.mem_append.mp hf with hf | hf
    · exact absurd hkey.symm (hfirst f hf)
    · exact List.mem_cons.mp hf
  rcases hplace with rfl | hlater
  · exact hrefl f
  · exact (List.pairwise_cons.mp (List.pairwise_append.mp hR).2.1).1 f hlater hkey

theorem dedupAfter_eq_filter {seen more extra : List (String × Int)}
    (hmore : ∀ k, k ∈ more ↔ k ∈ seen ∨ k ∈ extra) (findings : List Finding) :
    dedupAfter more findings = (dedupAfter seen findings).filter fun f => f.key ∉ extra := by
  induction findings generalizing seen more with
  | nil => rfl
  | cons f rest ih =>
    by_cases hseen : f.key ∈ seen
    · have hmem : f.key ∈ more := (hmore _).mpr (Or.inl hseen)
      rw [dedupAfter, if_pos (by simpa using hmem), dedupAfter, if_pos (by simpa using hseen)]
      exact ih hmore
    have hstep : dedupAfter seen (f :: rest) = f :: dedupAfter (f.key :: seen) rest := by
      rw [dedupAfter, if_neg (by simpa using hseen)]
    by_cases hextra : f.key ∈ extra
    · -- The finding counts as seen on one side and is dropped afterwards on the other.
      have hmem : f.key ∈ more := (hmore _).mpr (Or.inr hextra)
      rw [dedupAfter, if_pos (by simpa using hmem), hstep,
        List.filter_cons_of_neg (by simpa using hextra)]
      apply ih
      intro k
      rw [hmore, List.mem_cons]
      constructor
      · rintro (hk | hk)
        · exact Or.inl (Or.inr hk)
        · exact Or.inr hk
      · rintro ((rfl | hk) | hk)
        · exact Or.inr hextra
        · exact Or.inl hk
        · exact Or.inr hk
    · have hmem : f.key ∉ more := fun hk => ((hmore _).mp hk).elim hseen hextra
      rw [dedupAfter, if_neg (by simpa using hmem), hstep,
        List.filter_cons_of_pos (by simpa using hextra)]
      congr 1
      apply ih
      intro k
      rw [List.mem_cons, List.mem_cons, hmore, or_assoc]

theorem dedupAfter_append (seen : List (String × Int)) (xs ys : List Finding) :
    dedupAfter seen (xs ++ ys) =
      dedupAfter seen xs ++
        (dedupAfter seen ys).filter fun f => f.key ∉ (dedupAfter seen xs).map key := by
  induction xs generalizing seen with
  | nil => exact (List.filter_eq_self.mpr (by simp [dedupAfter])).symm
  | cons f rest ih =>
    rw [List.cons_append]
    by_cases hseen : f.key ∈ seen
    · rw [dedupAfter, if_pos (by simpa using hseen), dedupAfter, if_pos (by simpa using hseen)]
      exact ih seen
    · have hys : dedupAfter (f.key :: seen) ys =
          (dedupAfter seen ys).filter fun g => g.key ∉ [f.key] :=
        dedupAfter_eq_filter (fun k => by simp [or_comm]) ys
      rw [dedupAfter, if_neg (by simpa using hseen), dedupAfter, if_neg (by simpa using hseen), ih,
        hys, List.filter_filter, List.cons_append]
      congr 2
      apply List.filter_congr
      intro g _
      simp [Bool.and_comm]

theorem deduplicate_append (xs ys : List Finding) :
    deduplicate (xs ++ ys) =
      deduplicate xs ++ (deduplicate ys).filter fun f => f.key ∉ (deduplicate xs).map key :=
  dedupAfter_append [] xs ys

theorem dedupAfter_filter {p : Finding → Bool} {seen own : List (String × Int)}
    {findings : List Finding} (hp : ∀ f ∈ findings, ∀ g ∈ findings, f.key = g.key → p f = p g)
    (hown : ∀ f ∈ findings, p f = true → (f.key ∈ seen ↔ f.key ∈ own)) :
    (dedupAfter seen findings).filter p = dedupAfter own (findings.filter p) := by
  induction findings generalizing seen own with
  | nil => rfl
  | cons f rest ih =>
    obtain ⟨hf, hrest⟩ := List.forall_mem_cons.mp hown
    have hprest : ∀ g ∈ rest, ∀ h ∈ rest, g.key = h.key → p g = p h := fun g hg h hh =>
      hp g (List.mem_cons_of_mem f hg) h (List.mem_cons_of_mem f hh)
    cases hpf : p f with
    | true =>
      rw [List.filter_cons_of_pos hpf, dedupAfter, dedupAfter]
      by_cases hseen : f.key ∈ seen
      · rw [if_pos (by simpa using hseen), if_pos (by simpa using (hf hpf).mp hseen)]
        exact ih hprest hrest
      · have hnew : f.key ∉ own := fun hmem => hseen ((hf hpf).mpr hmem)
        rw [if_neg (by simpa using hseen), if_neg (by simpa using hnew),
          List.filter_cons_of_pos hpf]
        refine congrArg (f :: ·) (ih hprest fun g hg hpg => ?_)
        rw [List.mem_cons, List.mem_cons, hrest g hg hpg]
    | false =>
      rw [List.filter_cons_of_neg (by simp [hpf]), dedupAfter]
      split
      · exact ih hprest hrest
      · rw [List.filter_cons_of_neg (by simp [hpf])]
        refine ih hprest fun g hg hpg => ?_
        have hne : g.key ≠ f.key := by
          intro hkey
          have hpfg := hp g (List.mem_cons_of_mem f hg) f List.mem_cons_self hkey
          simp [hpg, hpf] at hpfg
        rw [List.mem_cons, or_iff_right hne, hrest g hg hpg]

theorem deduplicate_filter {p : Finding → Bool} {findings : List Finding}
    (hp : ∀ f ∈ findings, ∀ g ∈ findings, f.key = g.key → p f = p g) :
    (deduplicate findings).filter p = deduplicate (findings.filter p) :=
  dedupAfter_filter hp fun _ _ _ => Iff.rfl

theorem dedupAfter_eq_self {seen : List (String × Int)} {findings : List Finding}
    (hnew : ∀ f ∈ findings, f.key ∉ seen)
    (hdistinct : findings.Pairwise fun g f => g.key ≠ f.key) :
    dedupAfter seen findings = findings := by
  induction findings generalizing seen with
  | nil => rfl
  | cons f rest ih =>
    obtain ⟨hf, hrest⟩ := List.forall_mem_cons.mp hnew
    obtain ⟨hfirst, hdistinct⟩ := List.pairwise_cons.mp hdistinct
    rw [dedupAfter, if_neg (by simpa using hf), ih _ hdistinct]
    intro g hg
    rw [List.mem_cons, not_or]
    exact ⟨(hfirst g hg).symm, hrest g hg⟩

theorem deduplicate_eq_self {findings : List Finding}
    (hdistinct : findings.Pairwise fun g f => g.key ≠ f.key) : deduplicate findings = findings :=
  dedupAfter_eq_self (by simp) hdistinct

/-- Findings whose keys are renamed without clashes are kept or dropped as before. -/
theorem dedupAfter_map {g : Finding → Finding} {rename : String × Int → String × Int}
    (hinj : ∀ a b, rename a = rename b → a = b) (hkey : ∀ f, (g f).key = rename f.key)
    (seen : List (String × Int)) (findings : List Finding) :
    dedupAfter (seen.map rename) (findings.map g) = (dedupAfter seen findings).map g := by
  induction findings generalizing seen with
  | nil => rfl
  | cons f rest ih =>
    have hseen : (seen.map rename).contains (g f).key = seen.contains f.key := by
      rw [Bool.eq_iff_iff, List.contains_iff_mem, List.contains_iff_mem, hkey]
      constructor
      · intro hmem
        obtain ⟨key, hseen, heq⟩ := List.mem_map.mp hmem
        exact hinj _ _ heq ▸ hseen
      · exact fun hmem => List.mem_map_of_mem hmem
    rw [List.map_cons, dedupAfter, dedupAfter, hseen]
    split
    · exact ih seen
    · have hrest := ih (f.key :: seen)
      rw [List.map_cons, ← hkey] at hrest
      rw [hrest, List.map_cons]

theorem deduplicate_map {g : Finding → Finding} (rename : String × Int → String × Int)
    (hinj : ∀ a b, rename a = rename b → a = b) (hkey : ∀ f, (g f).key = rename f.key)
    (findings : List Finding) :
    deduplicate (findings.map g) = (deduplicate findings).map g :=
  dedupAfter_map hinj hkey [] findings

end ContractAudit.Finding
