import LicenseAudit.Proofs.Verdict.Rollover

/-!
# Fixes year after year

A file is fixed in every year of a list, each time the text that the fix before it left
(`yearlyFixes`). At each point of such a run either no fix has changed the file yet, and it names
its start year; or it has the header that the last fix wrote, and the lines outside the header are,
up to blank ones, those that every fix left (`Standing`). A check keeps this (`Standing.step`),
whether it finds the file in order or fixes it, and so the whole run does (`Standing.continues`).
What a check says and does follows from where the run stands (`YearlyFix.Continues`).

A file whose start year is unknown gets the year of the first fix, as its first check cannot have
found it in order (`isSome_startYear_of_matched`).
-/

namespace LicenseAudit

open Text

/-! ## One fix a year -/

/-- A fix: the year, the text that it found, and what it said. -/
structure YearlyFix where
  year : Int
  text : Text
  verdict : Verdict

/-- The text that a fix leaves. -/
def YearlyFix.result (f : YearlyFix) : Text := f.verdict.newText?.getD f.text

/-- What is asked of a file in a year. No start year is prescribed. -/
def yearlyOrder (license : Text) (year : Int) : Order where
  license := license
  currentYear := year
  fix := true

/-- The fixes of a file in these years, up to the first without a verdict. -/
def yearlyFixes (path license : Text) : List Int → Text → List YearlyFix
  | [], _ => []
  | year :: later, s =>
    match checkText? builtinGrammars path (yearlyOrder license year) s with
    | none => []
    | some verdict =>
      let f : YearlyFix := ⟨year, s, verdict⟩
      f :: yearlyFixes path license later f.result

theorem yearlyFixes_cons {path license s : Text} {year : Int} {later : List Int} {v : Verdict}
    (hv : checkText? builtinGrammars path (yearlyOrder license year) s = some v) :
    yearlyFixes path license (year :: later) s =
      ⟨year, s, v⟩ :: yearlyFixes path license later (YearlyFix.result ⟨year, s, v⟩) := by
  rw [yearlyFixes, hv]

/-- The lines of a file that are not blank and not in its first block. -/
def linesOutsideHeader (g : Grammar) (s : Text) : List Text :=
  let d := Document.parse g s
  (d.keptLines (d.blocks.take 1)).filter fun line => !isAllBlank line

/-- The last of the fixes `front` that changed the file, and what it wrote. -/
def IsLastChange (front : List YearlyFix) (written : YearlyFix) : Prop :=
  ∃ before after, front = before ++ written :: after ∧ written.verdict.isFixed = true ∧
    ∀ f ∈ after, f.verdict.isFixed = false

/-- The block is the header of the file, and says this. -/
structure Block.Heads (header : Block) (g : Grammar) (text s : Text) : Prop where
  isHeader : header.IsHeader g text (1 + (Document.parse g s).directiveLines.length)
  head? : (Document.parse g s).blocks.head? = some header.annotate

/-- What a fix of a file with the start year `first` says, and how it changes the file, after the
fixes `front`. -/
structure YearlyFix.Continues (g : Grammar) (license : Text) (first : Int)
    (front : List YearlyFix) (f : YearlyFix) : Prop where
  startYear : front ≠ [] → f.verdict.startYear = some first
  header : f.verdict.isFixed = true →
    ∃ header : Block, header.Heads g (expandYears license (some first) f.year) f.result
  /-- It removes nothing but the header that was written last. -/
  declarations : f.verdict.isFixed = true → (∃ a ∈ front, a.verdict.isFixed = true) →
    ∃ (written : YearlyFix) (header : Block), IsLastChange front written ∧
      written.result = f.text ∧
      header.Heads g (expandYears license (some first) written.year) f.text ∧
      f.verdict.declarations = [header.annotate]
  /-- Once the file was changed, it keeps its lines but for the header and blank ones. -/
  linesOutside : ∀ a ∈ front, a.verdict.isFixed = true →
    linesOutsideHeader g f.result = linesOutsideHeader g a.result

/-! ## A file in order names its start year -/

section StartYear

variable {path s : Text} {order : Order} {v : Verdict} {header : Block}

/-- A check that fixes files finds a file in order, or fixes it. -/
theorem matched_or_fixed {table : List Grammar} (hv : checkText? table path order s = some v)
    (hfix : order.fix = true) :
    (∃ header, v.finding = .matched header) ∨
      ∃ removed newText, v.finding = .fixed removed newText := by
  obtain ⟨-, hcheck⟩ := checkText?_eq_some hv
  rw [hcheck, checkWith]
  dsimp only
  rw [Document.judge]
  split
  · exact .inl ⟨_, rfl⟩
  · dsimp only
    rw [if_pos hfix]
    exact .inr ⟨_, _, rfl⟩

/-- The header of a file in order has its years where the template has them. -/
theorem isSome_startYear_of_matched {table : List Grammar}
    (hv : checkText? table path order s = some v) (hf : v.finding = .matched header)
    (hyear : order.startYear = none) (hnamed : yearsMacro <:+: order.license)
    (h₁ : 1000 ≤ order.currentYear) (h₂ : order.currentYear ≤ 2999) :
    v.startYear.isSome = true := by
  by_contra hnone
  have hresolve : (Document.parse v.grammar s).resolveYear order.license = none :=
    (startYear_of_checkText? hv hyear).symm.trans (Option.not_isSome_iff_eq_none.1 hnone)
  obtain ⟨-, hcheck⟩ := checkText?_eq_some hv
  rw [hcheck] at hf
  have hfind := Document.findHeader?_of_judge_eq_matched _ _ hf
  have hexpected : header.normalized =
      normalizeLicense (expandYears order.license none order.currentYear) := by
    have hheader := List.find?_some hfind
    rw [Document.expectedHeader_settleYear,
      Document.startYear_settleYear_of_eq_none _ order hyear, hresolve] at hheader
    exact eq_of_beq hheader
  obtain ⟨years, ht, -⟩ := templateYears?_expandYears none order.currentYear h₁
    (Int.le_refl _) h₂ hnamed
  rw [← hexpected] at ht
  obtain ⟨b, year, htemplate⟩ := exists_findTemplate?_of_mem (List.mem_of_find?_eq_some hfind) ht
  obtain ⟨-, years', ht', rfl⟩ := exists_of_findTemplate? htemplate
  unfold Document.resolveYear at hresolve
  split at hresolve
  · cases hresolve
  · have hb : (Document.parse v.grammar s).blocks =
        ((Document.parse v.grammar s).settleYear order).blocks := rfl
    rw [hb, htemplate, Option.bind_some, earliest, List.min?_eq_none_iff] at hresolve
    exact ne_nil_of_templateYears? hnamed ht' hresolve

end StartYear

/-! ## Where a run of fixes stands -/

section Standing

variable {g : Grammar} {license path s : Text} {first year : Int} {front : List YearlyFix}
variable {v : Verdict}

theorem Headed.heads {current : Int} {header : Block} {back : List Text}
    (h : Headed g license first current header back s) :
    header.Heads g (expandYears license (some first) current) s := by
  obtain ⟨rest, hblocks, -⟩ := h.blocks
  exact ⟨h.isHeader, congrArg List.head? hblocks⟩

theorem filter_replicate_nil (n : Nat) :
    (List.replicate n ([] : Text)).filter (fun line => !isAllBlank line) = [] := by
  rw [List.filter_eq_nil_iff]
  intro line hline
  rw [List.eq_of_mem_replicate hline]
  decide

theorem linesOutsideHeader_of_headed {current : Int} {header : Block} {back : List Text}
    (h : Headed g license first current header back s) :
    linesOutsideHeader g s = back.filter fun line => !isAllBlank line := by
  obtain ⟨rest, hblocks, -⟩ := h.blocks
  rw [linesOutsideHeader, hblocks, List.take_succ_cons, List.take_zero, h.keptLines_eq,
    List.filter_append, filter_replicate_nil, List.nil_append]

/-- The text `s` that the fixes `front` left of a file with the start year `first`. -/
inductive Standing (g : Grammar) (license : Text) (first : Int) (front : List YearlyFix)
    (s : Text) : Prop
  /-- No fix has changed the file. -/
  | unchanged (hfront : ∀ a ∈ front, a.verdict.isFixed = false)
      (hyear : (Document.parse g s).resolveYear license = some first)
  /-- The file has the header of the last fix that changed it. -/
  | changed {written : YearlyFix} {header : Block} {back : List Text}
      (hlast : IsLastChange front written) (hresult : written.result = s)
      (hyear : first ≤ written.year)
      (hheaded : Headed g license first written.year header back s)
      (hlines : ∀ a ∈ front, a.verdict.isFixed = true →
        linesOutsideHeader g s = linesOutsideHeader g a.result)

theorem Standing.linesOutsideHeader_eq (h : Standing g license first front s) :
    ∀ a ∈ front, a.verdict.isFixed = true →
      linesOutsideHeader g s = linesOutsideHeader g a.result := by
  cases h with
  | unchanged hfront _ =>
    intro a ha hchanged
    rw [hfront a ha] at hchanged
    cases hchanged
  | changed _ _ _ _ hlines => exact hlines

theorem IsLastChange.mem {written : YearlyFix} (h : IsLastChange front written) :
    written ∈ front ∧ written.verdict.isFixed = true := by
  obtain ⟨before, after, rfl, hfixed, -⟩ := h
  exact ⟨by simp, hfixed⟩

theorem IsLastChange.append {written f : YearlyFix} (h : IsLastChange front written)
    (hf : f.verdict.isFixed = false) : IsLastChange (front ++ [f]) written := by
  obtain ⟨before, after, rfl, hfixed, hafter⟩ := h
  exact ⟨before, after ++ [f], by simp, hfixed,
    List.forall_mem_append.2 ⟨hafter, List.forall_mem_singleton.2 hf⟩⟩

/-- A fix that finds the file in order leaves it as it stands. -/
theorem Standing.append {f : YearlyFix} (h : Standing g license first front s)
    (hf : f.verdict.isFixed = false) : Standing g license first (front ++ [f]) s := by
  have hnot : ¬ f.verdict.isFixed = true := by simp [hf]
  cases h with
  | unchanged hfront hyear =>
    exact .unchanged (List.forall_mem_append.2 ⟨hfront, List.forall_mem_singleton.2 hf⟩) hyear
  | changed hlast hresult hyear hheaded hlines =>
    exact .changed (hlast.append hf) hresult hyear hheaded
      (List.forall_mem_append.2 ⟨hlines, List.forall_mem_singleton.2 (absurd · hnot)⟩)

/-- A fix that changes the file has written its header. -/
theorem Standing.append_changed {f : YearlyFix} {header : Block} {back : List Text}
    (hf : f.verdict.isFixed = true) (hyear : first ≤ f.year)
    (hheaded : Headed g license first f.year header back f.result)
    (hlines : ∀ a ∈ front, a.verdict.isFixed = true →
      linesOutsideHeader g f.result = linesOutsideHeader g a.result) :
    Standing g license first (front ++ [f]) f.result :=
  .changed ⟨front, [], rfl, hf, by simp⟩ rfl hyear hheaded
    (List.forall_mem_append.2 ⟨hlines, List.forall_mem_singleton.2 fun _ => rfl⟩)

theorem YearlyFix.of_matched {f : YearlyFix} {header : Block}
    (h : f.verdict.finding = .matched header) :
    f.verdict.isFixed = false ∧ f.result = f.text := by
  simp [Verdict.isFixed, YearlyFix.result, Verdict.newText?, h]

theorem YearlyFix.of_fixed {f : YearlyFix} {removed : List Block} {newText : Text}
    (h : f.verdict.finding = .fixed removed newText) :
    f.verdict.isFixed = true ∧ f.result = newText ∧ f.verdict.declarations = removed := by
  simp [Verdict.isFixed, YearlyFix.result, Verdict.newText?, Verdict.declarations, h]

/-- A fix that finds the file in order writes nothing and removes nothing. -/
theorem YearlyFix.Continues.of_isFixed_eq_false {f : YearlyFix} (hf : f.verdict.isFixed = false)
    (hstart : front ≠ [] → f.verdict.startYear = some first)
    (hlines : ∀ a ∈ front, a.verdict.isFixed = true →
      linesOutsideHeader g f.result = linesOutsideHeader g a.result) :
    f.Continues g license first front := by
  have hnot : ¬ f.verdict.isFixed = true := by simp [hf]
  exact ⟨hstart, fun h => absurd h hnot, fun h => absurd h hnot, hlines⟩

/-! ## What a fix keeps -/

section Step

variable (hg : lookupGrammar? builtinGrammars path = some g) (hs : DelimiterSafe g license)
variable (hkind : g.lineComments = [] ∨ g.blockComments = [])
variable (hnamed : yearsMacro <:+: license) (hfaithful : YearFaithful license)
variable (hv : checkText? builtinGrammars path (yearlyOrder license year) s = some v)

include hg hv in
/-- A fix says the start year that the file names. -/
theorem startYear_eq_resolveYear :
    v.grammar = g ∧ v.startYear = (Document.parse g s).resolveYear license := by
  have hgrammar : v.grammar = g := Option.some.inj ((checkText?_eq_some hv).1.symm.trans hg)
  exact ⟨hgrammar, hgrammar ▸ startYear_of_checkText? hv rfl⟩

include hg hnamed hfaithful hv in
/-- At every point of a run a fix says the start year. -/
theorem Standing.startYear_eq (h : Standing g license first front s) (h₁ : 1000 ≤ first)
    (hfront : ∀ a ∈ front, a.year ≤ 2999) : v.startYear = some first := by
  rw [(startYear_eq_resolveYear hg hv).2]
  cases h with
  | unchanged _ hyear => exact hyear
  | changed hlast _ hyear hheaded _ =>
    exact hheaded.resolveYear_eq hnamed hfaithful h₁ hyear (hfront _ hlast.mem.1)

include hg hs hkind hv in
/-- A fix that changes the file writes its header. -/
theorem exists_headed_result {removed : List Block} {newText : Text}
    (hf : v.finding = .fixed removed newText) :
    ∃ header back, Headed g license (v.startYear.getD year) year header back
      (YearlyFix.result ⟨year, s, v⟩) := by
  obtain ⟨rfl, -⟩ := startYear_eq_resolveYear hg hv
  obtain ⟨-, -, header, hheaded⟩ := exists_headed_of_fixed hv hf hs hkind
  rw [(YearlyFix.of_fixed (f := ⟨year, s, v⟩) hf).2.1]
  exact ⟨header, _, hheaded⟩

include hg hs hkind hv in
/-- The first fix that changes the file. -/
theorem continues_of_unchanged {removed : List Block} {newText : Text}
    (hf : v.finding = .fixed removed newText)
    (hfront : ∀ a ∈ front, a.verdict.isFixed = false)
    (hstart : front ≠ [] → v.startYear = some first)
    (hfirst : v.startYear.getD year = first) (hyear : first ≤ year) :
    let f : YearlyFix := ⟨year, s, v⟩
    f.Continues g license first front ∧ Standing g license first (front ++ [f]) f.result := by
  intro f
  obtain ⟨header, back, hheaded⟩ := exists_headed_result hg hs hkind hv hf
  rw [hfirst] at hheaded
  have hnone : ∀ a ∈ front, ¬ a.verdict.isFixed = true := by
    intro a ha
    simp [hfront a ha]
  obtain ⟨hfixed, -⟩ := YearlyFix.of_fixed (f := f) hf
  refine ⟨⟨hstart, fun _ => ⟨header, hheaded.heads⟩, ?_, ?_⟩, ?_⟩
  · exact fun _ ⟨a, ha, hchanged⟩ => absurd hchanged (hnone a ha)
  · exact fun a ha hchanged => absurd hchanged (hnone a ha)
  · exact .append_changed hfixed hyear hheaded fun a ha hchanged => absurd hchanged (hnone a ha)

include hg hs hkind hnamed hfaithful hv in
/-- A fix that changes the file again puts a new header in the place of the last. -/
theorem continues_of_changed {removed : List Block} {newText : Text} {written : YearlyFix}
    {header : Block} {back : List Text} (hf : v.finding = .fixed removed newText)
    (hstart : v.startYear = some first) (h₁ : 1000 ≤ first) (h₂ : first ≤ year)
    (hlast : IsLastChange front written) (hresult : written.result = s)
    (hyear : first ≤ written.year) (hbound : written.year ≤ 2999)
    (hheaded : Headed g license first written.year header back s)
    (hlines : ∀ a ∈ front, a.verdict.isFixed = true →
      linesOutsideHeader g s = linesOutsideHeader g a.result) :
    let f : YearlyFix := ⟨year, s, v⟩
    f.Continues g license first front ∧ Standing g license first (front ++ [f]) f.result := by
  intro f
  obtain ⟨hgrammar, -⟩ := startYear_eq_resolveYear hg hv
  obtain ⟨hremoved, -, -, header', hheaded'⟩ := hheaded.exists_headed_of_fixed hv hf hgrammar
    rfl hs hkind hnamed hfaithful rfl h₁ hyear hbound
  obtain ⟨hfixed, hnew, hdeclarations⟩ := YearlyFix.of_fixed (f := f) hf
  rw [← hnew] at hheaded'
  -- the empty lines that come behind the new header are not counted
  have hsame : linesOutsideHeader g f.result = linesOutsideHeader g s := by
    rw [linesOutsideHeader_of_headed hheaded', linesOutsideHeader_of_headed hheaded,
      List.filter_append, filter_replicate_nil, List.nil_append]
  have hall : ∀ a ∈ front, a.verdict.isFixed = true →
      linesOutsideHeader g f.result = linesOutsideHeader g a.result :=
    fun a ha hchanged => hsame.trans (hlines a ha hchanged)
  refine ⟨⟨fun _ => hstart, fun _ => ⟨header', hheaded'.heads⟩, fun _ _ => ?_, hall⟩, ?_⟩
  · exact ⟨written, header, hlast, hresult, hheaded.heads, hdeclarations.trans hremoved⟩
  · exact .append_changed hfixed h₂ hheaded' hall

include hg hs hkind hnamed hfaithful hv in
/-- **A fix continues the fixes in front of it**: it says the same start year, removes the header
that was written last and nothing else, and leaves the lines outside it as they are. -/
theorem Standing.step (h : Standing g license first front s) (h₁ : 1000 ≤ first)
    (h₂ : first ≤ year) (h₃ : year ≤ 2999) (hfront : ∀ a ∈ front, a.year ≤ year) :
    let f : YearlyFix := ⟨year, s, v⟩
    f.Continues g license first front ∧ Standing g license first (front ++ [f]) f.result := by
  intro f
  have hbound : ∀ a ∈ front, a.year ≤ 2999 := fun a ha => Int.le_trans (hfront a ha) h₃
  have hstart := h.startYear_eq hg hnamed hfaithful hv h₁ hbound
  rcases matched_or_fixed hv rfl with ⟨header, hf⟩ | ⟨removed, newText, hf⟩
  · obtain ⟨hfixed, hresult⟩ := YearlyFix.of_matched (f := f) hf
    refine ⟨.of_isFixed_eq_false hfixed (fun _ => hstart) ?_, ?_⟩
    · rw [hresult]
      exact h.linesOutsideHeader_eq
    · rw [hresult]
      exact h.append hfixed
  · cases h with
    | unchanged hunchanged hyear =>
      exact continues_of_unchanged hg hs hkind hv hf hunchanged (fun _ => hstart)
        (by rw [hstart]; rfl) h₂
    | changed hlast hresult hyear hheaded hlines =>
      exact continues_of_changed hg hs hkind hnamed hfaithful hv hf hstart h₁ h₂ hlast hresult
        hyear (hbound _ hlast.mem.1) hheaded hlines

include hg hs hkind hnamed hfaithful in
/-- A whole run goes on from where it stands: there is a fix for every year, and each continues
those in front of it. -/
theorem Standing.continues {years : List Int} (h : Standing g license first front s)
    (h₁ : 1000 ≤ first) (hyears : years.Pairwise (· ≤ ·))
    (hbounds : ∀ y ∈ years, first ≤ y ∧ y ≤ 2999)
    (hfront : ∀ a ∈ front, ∀ y ∈ years, a.year ≤ y) :
    (yearlyFixes path license years s).map (·.year) = years ∧
      ∀ before f after, yearlyFixes path license years s = before ++ f :: after →
        f.Continues g license first (front ++ before) := by
  induction years generalizing front s with
  | nil =>
    refine ⟨rfl, fun before f after heq => ?_⟩
    cases before <;> cases heq
  | cons year later ih =>
    obtain ⟨hle, hlater⟩ := List.pairwise_cons.1 hyears
    obtain ⟨v, hv⟩ : ∃ v, checkText? builtinGrammars path (yearlyOrder license year) s = some v :=
      ⟨_, by rw [checkText?, hg]; rfl⟩
    obtain ⟨hbound, hbound'⟩ := hbounds year (List.mem_cons_self ..)
    obtain ⟨hcontinues, hstanding⟩ := h.step hg hs hkind hnamed hfaithful hv h₁ hbound hbound'
      fun a ha => hfront a ha year (List.mem_cons_self ..)
    obtain ⟨hmap, hrest⟩ := ih hstanding hlater
      (fun y hy => hbounds y (List.mem_cons_of_mem _ hy))
      (List.forall_mem_append.2 ⟨fun a ha y hy => hfront a ha y (List.mem_cons_of_mem _ hy),
        List.forall_mem_singleton.2 hle⟩)
    rw [yearlyFixes_cons hv]
    refine ⟨congrArg (year :: ·) hmap, fun before f after heq => ?_⟩
    cases before with
    | nil =>
      rw [← (List.cons.inj heq).1, List.append_nil]
      exact hcontinues
    | cons a before =>
      obtain ⟨rfl, htail⟩ := List.cons.inj heq
      rw [List.append_cons]
      exact hrest before f after htail

end Step

end Standing

/-! ## The start year of a file -/

section Start

variable {license path s : Text} {year : Int} {later : List Int} {v : Verdict}

/-- The first fix of a run names the start year, or writes it. -/
theorem continues_first
    (hv : checkText? builtinGrammars path (yearlyOrder license year) s = some v)
    (hs : DelimiterSafe v.grammar license)
    (hkind : v.grammar.lineComments = [] ∨ v.grammar.blockComments = [])
    (hnamed : yearsMacro <:+: license) (h₁ : 1000 ≤ year) (h₂ : year ≤ 2999)
    (hstart : v.startYear.getD year ≤ year) :
    let f : YearlyFix := ⟨year, s, v⟩
    f.Continues v.grammar license (v.startYear.getD year) [] ∧
      Standing v.grammar license (v.startYear.getD year) [f] f.result := by
  intro f
  obtain ⟨hg, -⟩ := checkText?_eq_some hv
  rcases matched_or_fixed hv rfl with ⟨header, hf⟩ | ⟨removed, newText, hf⟩
  · obtain ⟨hfixed, hresult⟩ := YearlyFix.of_matched (f := f) hf
    obtain ⟨-, hresolve⟩ := startYear_eq_resolveYear hg hv
    obtain ⟨first, hfirst⟩ := Option.isSome_iff_exists.1
      (isSome_startYear_of_matched hv hf rfl hnamed h₁ h₂)
    rw [hresult]
    refine ⟨.of_isFixed_eq_false hfixed (absurd rfl) (by simp),
      .unchanged (List.forall_mem_singleton.2 hfixed) ?_⟩
    rw [← hresolve, hfirst, Option.getD_some]
  · exact continues_of_unchanged hg hs hkind hv hf (by simp) (absurd rfl) rfl hstart

/-- **The first copyright year survives fixes year after year**: there is a fix for every year, all
but the first say the start year of the first one, or its year when that was unknown, and each
that changes the file after the first such one only puts a new header in the place of the last. -/
theorem continues_yearlyFixes
    (hv : checkText? builtinGrammars path (yearlyOrder license year) s = some v)
    (hs : DelimiterSafe v.grammar license)
    (hkind : v.grammar.lineComments = [] ∨ v.grammar.blockComments = [])
    (hnamed : yearsMacro <:+: license) (hfaithful : YearFaithful license)
    (hyears : (year :: later).Pairwise (· ≤ ·)) (hbounds : ∀ y ∈ year :: later, 1000 ≤ y ∧ y ≤ 2999)
    (hstart : ∀ y ∈ v.startYear, y ≤ year) :
    let fixes := yearlyFixes path license (year :: later) s
    fixes.map (·.year) = year :: later ∧
      ∀ front f back, fixes = front ++ f :: back →
        f.Continues v.grammar license (v.startYear.getD year) front := by
  intro fixes
  obtain ⟨hg, -⟩ := checkText?_eq_some hv
  obtain ⟨hle, hlater⟩ := List.pairwise_cons.1 hyears
  obtain ⟨h₁, h₂⟩ := hbounds year (List.mem_cons_self ..)
  have hlower := le_startYear_getD hv rfl h₁
  have hupper := startYear_getD_le hstart
  obtain ⟨hfirst, hstanding⟩ := continues_first hv hs hkind hnamed h₁ h₂ hupper
  obtain ⟨hmap, hrest⟩ := hstanding.continues hg hs hkind hnamed hfaithful hlower hlater
    (fun y hy => ⟨Int.le_trans hupper (hle y hy), (hbounds y (List.mem_cons_of_mem _ hy)).2⟩)
    (List.forall_mem_singleton.2 hle)
  have hfixes : fixes = ⟨year, s, v⟩ :: yearlyFixes path license later
      (YearlyFix.result ⟨year, s, v⟩) := yearlyFixes_cons hv
  rw [hfixes]
  refine ⟨congrArg (year :: ·) hmap, fun front f back heq => ?_⟩
  cases front with
  | nil =>
    rw [← (List.cons.inj heq).1]
    exact hfirst
  | cons a front =>
    obtain ⟨rfl, htail⟩ := List.cons.inj heq
    exact hrest front f back htail

theorem continues_yearlyFixes_module :
    let fixes := yearlyFixes "a.py" (notice "Acme") [2024, 2024, 2025, 2026] moduleText
    checkText? builtinGrammars "a.py" (yearlyOrder (notice "Acme") 2024) moduleText =
        some moduleVerdict ∧
      fixes.map (·.verdict.isFixed) = [true, false, true, true] ∧
      fixes.map (·.year) = [2024, 2024, 2025, 2026] ∧
      ∀ front f back, fixes = front ++ f :: back →
        f.Continues moduleVerdict.grammar (notice "Acme") 2019 front := by
  intro fixes
  have hv : checkText? builtinGrammars "a.py" (yearlyOrder (notice "Acme") 2024) moduleText =
      some moduleVerdict := by
    decide +kernel
  exact ⟨hv, by decide +kernel, continues_yearlyFixes hv (by decide +kernel) (.inr rfl)
    (yearsMacro_infix_notice _) (yearFaithful_notice isHolder_acme) (by decide) (by decide)
    (by decide)⟩

end Start

end LicenseAudit
