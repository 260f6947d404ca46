import JaDesktop.Skills.SkillSources

/-!
# Selections by revision, enforced by name

A selection keeps the names of the chosen skills, so that it shows and allows what was chosen
exactly when no other skill has one of these names.
-/

namespace JaDesktop.Skills

open JaDesktop.Sidecar

namespace JaSkillSources

variable {ext : Externals} {api : SkillFilters} {content : Content} {s s' : JaSkillSources}
  {selected : Option (List JavaString)} {cs : List Candidate}

/-- A skill is shown and allowed exactly when it is built in or its own revision was selected. -/
def SelectsByRevision (ext : Externals) (api : SkillFilters) (content : Content)
    (s : JaSkillSources) (selected : Option (List JavaString)) : Prop :=
  s.projection ext content = s.projectionFor ext content selected ∧
    ∀ cs filter, candidates ext content = .ok cs → s.skillFilter ext api content = .ok filter →
      ∀ c ∈ cs, api.isAllowed filter c.name = chosen (selected.getD []) c

/-- No skill that was not chosen has the name of a chosen one; a selection that comes too late is
the one that was made already. -/
def Unambiguous (ext : Externals) (content : Content) (s : JaSkillSources)
    (selected : Option (List JavaString)) : Prop :=
  ∀ cs, candidates ext content = .ok cs →
    if s.activated then ∀ c ∈ cs, c.name ∈ s.enabledNames ↔ chosen (selected.getD []) c = true
    else ∀ c ∈ cs, ∀ c' ∈ cs, c.name = c'.name → chosen (selected.getD []) c' = true →
      chosen (selected.getD []) c = true

lemma freeze_cases (h : s.freeze ext content selected = .ok s') :
    s.closed = false ∧
      ((s.activated = true ∧ s' = s) ∨
        (s.activated = false ∧ s'.activated = true ∧ s'.closed = false ∧
          ∃ cs, candidates ext content = .ok cs ∧
            s'.enabledNames =
              ((cs.filter (chosen (selected.getD []))).map Candidate.name).toFinset)) := by
  cases hclosed : s.closed with
  | true => simp [freeze, ensureOpen, hclosed] at h
  | false =>
    refine ⟨rfl, ?_⟩
    simp only [freeze, ensureOpen, hclosed, Bool.false_eq_true, if_false, ok_bind] at h
    cases hactivated : s.activated with
    | true =>
      simp only [hactivated, if_true, Except.ok.injEq] at h
      exact Or.inl ⟨rfl, h.symm⟩
    | false =>
      simp only [hactivated, Bool.false_eq_true, if_false] at h
      obtain ⟨cs, hcs, h⟩ := bind_eq_ok.mp h
      split_ifs at h
      cases h
      exact Or.inr ⟨rfl, rfl, rfl, cs, hcs, rfl⟩

/-- Where the sources are active, the filter allows the listed names that are enabled. -/
lemma isAllowed_skillFilter (hapi : api.Documented) (hactivated : s.activated = true)
    (hclosed : s.closed = false) (hcs : candidates ext content = .ok cs) {filter : api.Filter}
    (hfilter : s.skillFilter ext api content = .ok filter) {c : Candidate} (hc : c ∈ cs) :
    api.isAllowed filter c.name = decide (c.name ∈ s.enabledNames) := by
  simp only [skillFilter, ensureOpen, hclosed, Bool.false_eq_true, if_false, ok_bind, hactivated,
    if_true, selectedFilter, hcs, Except.ok.injEq] at hfilter
  have hmem : c.name ∈ ((cs.map Candidate.name).filter fun n => n ∈ s.enabledNames).eraseDups ↔
      c.name ∈ s.enabledNames := by
    rw [List.mem_eraseDups, List.mem_filter, decide_eq_true_eq, and_iff_right]
    exact List.mem_map.mpr ⟨c, hc, rfl⟩
  rw [Bool.eq_iff_iff, decide_eq_true_eq, ← hmem, ← hfilter]
  split_ifs with hempty
  · rw [hempty, hapi.none_allows]
    simp
  · exact hapi.only_allows _ _

lemma projection_eq (hactivated : s.activated = true) (hclosed : s.closed = false)
    (hsame : ∀ cs, candidates ext content = .ok cs →
      ∀ c ∈ cs, decide (c.name ∈ s.enabledNames) = chosen (selected.getD []) c) :
    s.projection ext content = s.projectionFor ext content selected := by
  simp only [projection, projectionFor, ensureOpen, hclosed, Bool.false_eq_true, if_false, ok_bind,
    hactivated, Bool.not_true, Bool.false_or]
  cases hcs : candidates ext content with
  | error e => rfl
  | ok cs =>
    rw [ok_bind, ok_bind]
    exact mapM_congr fun c hc => by rw [hsame cs hcs c hc]

/-- An active selection is one by revision exactly when the enabled names are those of the chosen
skills and of no others. -/
lemma selectsByRevision_iff (hapi : api.Documented) (hactivated : s.activated = true)
    (hclosed : s.closed = false) :
    SelectsByRevision ext api content s selected ↔
      ∀ cs, candidates ext content = .ok cs →
        ∀ c ∈ cs, c.name ∈ s.enabledNames ↔ chosen (selected.getD []) c = true := by
  constructor
  · rintro ⟨-, hfilters⟩ cs hcs c hc
    have hfilter : s.skillFilter ext api content = s.selectedFilter ext api content := by
      simp [skillFilter, ensureOpen, hclosed, hactivated]
    rw [selectedFilter, hcs, ok_bind] at hfilter
    have hallowed := isAllowed_skillFilter hapi hactivated hclosed hcs hfilter hc
    rw [hfilters cs _ hcs hfilter c hc] at hallowed
    rw [hallowed, decide_eq_true_eq]
  · intro hnames
    have hsame : ∀ cs, candidates ext content = .ok cs →
        ∀ c ∈ cs, decide (c.name ∈ s.enabledNames) = chosen (selected.getD []) c := by
      intro cs hcs c hc
      rw [Bool.eq_iff_iff, decide_eq_true_eq]
      exact hnames cs hcs c hc
    refine ⟨projection_eq hactivated hclosed hsame, fun cs filter hcs hfilter c hc => ?_⟩
    rw [isAllowed_skillFilter hapi hactivated hclosed hcs hfilter hc]
    exact hsame cs hcs c hc

/-- **Selection is by revision exactly when the names are unambiguous.**  Whatever the sources
contain, the skills that an accepted selection shows and allows are the chosen ones if and only if
no skill that was not chosen has the name of a chosen one. -/
theorem selectsByRevision_freeze_iff (hapi : api.Documented)
    (h : s.freeze ext content selected = .ok s') :
    SelectsByRevision ext api content s' selected ↔ Unambiguous ext content s selected := by
  obtain ⟨hclosed, ⟨hactivated, rfl⟩ | ⟨hfresh, hactivated, hclosed', cs, hcs, hnames⟩⟩ :=
    freeze_cases h
  · rw [selectsByRevision_iff hapi hactivated hclosed]
    simp only [Unambiguous, hactivated, if_true]
  · rw [selectsByRevision_iff hapi hactivated hclosed']
    simp only [Unambiguous, hfresh, Bool.false_eq_true, if_false, hcs, Except.ok.injEq,
      forall_eq']
    have hmem : ∀ c : Candidate, c.name ∈ s'.enabledNames ↔
        ∃ c' ∈ cs, chosen (selected.getD []) c' = true ∧ c'.name = c.name := by
      intro c
      rw [hnames]
      simp [and_assoc]
    constructor
    · intro hall c hc c' hc' hname hchosen
      exact (hall c hc).mp ((hmem c).mpr ⟨c', hc', hchosen, hname.symm⟩)
    · intro hall c hc
      rw [hmem]
      constructor
      · rintro ⟨c', hc', hchosen, hname⟩
        exact hall c hc c' hc' hname.symm hchosen
      · intro hchosen
        exact ⟨c, hc, hchosen, rfl⟩

end JaSkillSources

/-! ## A workspace skill with the name of a built-in one -/

/-- Filters that are the lists of what they allow; none for everything. -/
def listFilters : SkillFilters where
  Filter := Option (List JavaString)
  all := none
  none := some []
  only names := some names
  isAllowed filter name := filter.all fun names => names.contains name

lemma listFilters_documented : listFilters.Documented where
  all_allows _ := rfl
  none_allows _ := rfl
  only_allows names name := by simp [listFilters]

/-- A digest that adds the bytes. -/
def sumExternals : Externals where
  sha256 bytes := ⟨List.replicate 32 (bytes.foldl (· + ·) 0), rfl⟩
  writeValueAsString _ := some (java "\x7b\x7d")

/-- A repository with one skill that has no resources. -/
def oneSkill (name content : String) : AgentSkillRepository where
  getAllSkills := some [some ⟨some (java name), none, [], some (java content), ∅⟩]
  resourcesFor := none

/-- The workspace has a skill of its own under the name of the built-in one. -/
def shadowing : Content := ⟨oneSkill "coding" "a", none, some (oneSkill "coding" "b")⟩

/-- The sources after nothing was selected. -/
def codingOnly : JaSkillSources := ⟨{java "coding"}, true, false⟩

/-- The workspace has a skill under a name of its own. -/
def distinct : Content := ⟨oneSkill "coding" "a", none, some (oneSkill "notes" "b")⟩

lemma unambiguous_distinct :
    JaSkillSources.Unambiguous sumExternals distinct .opened (some []) := by
  have hall : ((candidates sumExternals distinct).toOption.all fun cs =>
      decide (∀ c ∈ cs, ∀ c' ∈ cs, c.name = c'.name → JaSkillSources.chosen [] c' = true →
        JaSkillSources.chosen [] c = true)) = true := by
    decide +kernel
  intro cs hcs
  rw [hcs] at hall
  exact of_decide_eq_true hall

theorem selectsByRevision_freeze_distinct :
    JaSkillSources.SelectsByRevision sumExternals listFilters distinct codingOnly (some []) := by
  have hfrozen : JaSkillSources.opened.freeze sumExternals distinct (some []) = .ok codingOnly := by
    decide +kernel
  exact (JaSkillSources.selectsByRevision_freeze_iff listFilters_documented hfrozen).mpr
    unambiguous_distinct

/-- Nothing was selected, and yet the skill of the workspace is shown and allowed. -/
theorem shadowing_enables_unselected :
    JaSkillSources.opened.freeze sumExternals shadowing (some []) = .ok codingOnly ∧
      codingOnly.projection sumExternals shadowing ≠
        codingOnly.projectionFor sumExternals shadowing (some []) := by
  constructor
  · decide +kernel
  · decide +kernel

end JaDesktop.Skills
