import LicenseAudit.Proofs.Settings.YearNotations

/-!
# Cleaned tables

A mistake in a settings table affects nothing but itself. `Table.cleaned` keeps of a table what can
be used: the known keys whose values have the right kind (`SettingKind.usable?`), in a list of texts
only the texts and in a table of years only the entries that are years. The draft of a table is that
of the cleaned one, which gives no cause for a record (`Run.perform_tableDraft_cleaned`).
-/

namespace LicenseAudit

open Text

/-! ## What can be used -/

/-- The value is a year: an integer from 1000 to 2999, or a text that is, trimmed, a one or a two
and three more decimal digits. -/
def Value.isYear : Value → Bool
  | .integer n => 1000 ≤ n && n ≤ 2999
  | .text s =>
    match trim s with
    | [c, c₁, c₂, c₃] =>
      (c == '1' || c == '2') && isDecimalDigit c₁ && isDecimalDigit c₂ && isDecimalDigit c₃
    | _ => false
  | _ => false

/-- The value is a text. -/
def Value.isText : Value → Bool
  | .text _ => true
  | _ => false

/-- What a key of the settings is to hold. -/
inductive SettingKind
  | text
  | truth
  /-- A text or the truth value that stands for none. -/
  | textOrOff
  /-- A list of texts, or one text for a list of one. -/
  | texts
  /-- A table of years, or a text that leads to them. -/
  | years
  deriving DecidableEq, Repr

/-- The keys that have a meaning, with what they are to hold. -/
def keyKinds : List (Text × SettingKind) :=
  [("header", .text), ("standalone", .textOrOff), ("fix", .truth), ("excludes", .texts),
    ("gitignore", .truth), ("years", .years), ("log_file", .text)]

/-- What can be used of a value: nothing of one of the wrong kind. -/
def SettingKind.usable? : SettingKind → Value → Option Value
  | .text, .text s => some (.text s)
  | .truth, .truth b => some (.truth b)
  | .textOrOff, .text s => some (.text s)
  | .textOrOff, .truth false => some (.truth false)
  | .texts, .text s => some (.text s)
  | .texts, .list items => some (.list (items.filter Value.isText))
  | .years, .text s => some (.text s)
  | .years, .table entries => some (.table (entries.filter fun e => e.2.isYear))
  | _, _ => none

namespace Table

/-- What can be used of the value of a key: nothing where the key has no meaning. -/
def usable? (t : Table) (key : Text) : Option Value :=
  (t.get? key).bind fun v => (keyKinds.lookup key).bind fun kind => kind.usable? v

/-- The keys of the table with what can be used of their values. -/
def cleaned (t : Table) : Table := t.filterMap fun e => (t.usable? e.1).map fun v => (e.1, v)

end Table

/-! ## Years -/

/-- The values that are years are those that are read as years. -/
theorem Value.isYear_eq_isSome (v : Value) : v.isYear = v.year?.isSome := by
  rw [Bool.eq_iff_iff, Option.isSome_iff_exists]
  simp only [year?_eq_some_iff]
  constructor
  · intro h
    cases v with
    | integer n =>
      simp only [isYear, Bool.and_eq_true, decide_eq_true_eq] at h
      exact ⟨n, .integer h.1 h.2⟩
    | text s =>
      rw [isYear] at h
      split at h
      · next c c₁ c₂ c₃ hs =>
        simp only [Bool.and_eq_true, Bool.or_eq_true, beq_iff_eq, isDecimalDigit,
          Option.isSome_iff_exists] at h
        obtain ⟨⟨⟨hc, d₁, h₁⟩, d₂, h₂⟩, d₃, h₃⟩ := h
        obtain ⟨d, hd⟩ : ∃ d, digitValue? c = some d := by
          rcases hc with rfl | rfl
          · exact ⟨1, rfl⟩
          · exact ⟨2, rfl⟩
        have hyear := YearNumeral.digits hc hd h₁ h₂ h₃
        exact ⟨_, .text (writesYear_iff.2 (hs.symm ▸ hyear))⟩
      · cases h
    | _ => cases h
  · rintro ⟨year, h⟩
    cases h with
    | integer h₁ h₂ => simp [isYear, h₁, h₂]
    | text h =>
      have hyear := writesYear_iff.1 h
      rw [isYear]
      generalize trim _ = s at hyear
      cases hyear with
      | digits hc h h₁ h₂ h₃ => simp [isDecimalDigit, hc, h₁, h₂, h₃]

/-! ## The values of a cleaned table -/

namespace Table

variable (t : Table)

theorem get?_cons (e : Text × Value) (key : Text) :
    get? (e :: t) key = if key = e.1 then some e.2 else t.get? key := by
  rw [get?, List.find?_cons]
  by_cases h : key = e.1
  · simp [h]
  · have hbeq : (e.1 == key) = false := beq_eq_false_iff_ne.2 (Ne.symm h)
    rw [hbeq, if_neg h, get?]

/-- What is kept of some keys is found where the keys are. -/
theorem get?_filterMap (g : Text → Option Value) (key : Text) :
    get? (t.filterMap fun e => (g e.1).map fun v => (e.1, v)) key =
      (t.get? key).bind fun _ => g key := by
  induction t with
  | nil => rfl
  | cons e t ih =>
    rw [List.filterMap_cons, get?_cons]
    by_cases hk : key = e.1
    · rw [if_pos hk, Option.bind_some, hk]
      rw [hk] at ih
      rcases hg : g e.1 with _ | v
      · simpa [hg] using ih
      · simp [get?_cons]
    · rw [if_neg hk, ← ih]
      rcases g e.1 with _ | v
      · rfl
      · rw [Option.map_some, get?_cons, if_neg hk]

theorem get?_cleaned (key : Text) : t.cleaned.get? key = t.usable? key := by
  rw [cleaned, get?_filterMap, usable?]
  rcases t.get? key with _ | v <;> rfl

section Kinds

variable {t} {key : Text}

theorem get?_cleaned_of_kind (kind : SettingKind) (hk : keyKinds.lookup key = some kind) :
    t.cleaned.get? key = (t.get? key).bind kind.usable? := by
  rw [get?_cleaned, usable?, hk]
  rfl

theorem text?_cleaned (hk : keyKinds.lookup key = some .text ∨
    keyKinds.lookup key = some .textOrOff) : t.cleaned.text? key = t.text? key := by
  rcases hk with hk | hk <;> rw [text?, text?, get?_cleaned_of_kind _ hk]
  · rcases t.get? key with _ | v
    · rfl
    · cases v <;> rfl
  · rcases t.get? key with _ | _ | _ | _ | _ | (_ | _) | _ <;> rfl

theorem truth?_cleaned (hk : keyKinds.lookup key = some .truth) :
    t.cleaned.truth? key = t.truth? key := by
  rw [truth?, truth?, get?_cleaned_of_kind _ hk]
  rcases t.get? key with _ | v
  · rfl
  · cases v <;> rfl

theorem texts?_cleaned (hk : keyKinds.lookup key = some .texts) :
    t.cleaned.texts? key = t.texts? key := by
  rw [texts?, texts?, get?_cleaned_of_kind _ hk]
  rcases t.get? key with _ | v
  · rfl
  cases v with
  | list items =>
    have hitems : (items.filter Value.isText).filterMap textItem? = items.filterMap textItem? := by
      rw [List.filterMap_filter]
      congr 1
      funext v
      cases v <;> rfl
    exact congrArg some hitems
  | _ => rfl

/-! ### Nothing to record -/

theorem textRecords_cleaned (hk : keyKinds.lookup key = some .text) :
    t.cleaned.textRecords key = [] := by
  rw [textRecords, get?_cleaned_of_kind _ hk]
  rcases t.get? key with _ | v
  · rfl
  · cases v <;> rfl

theorem truthRecords_cleaned (hk : keyKinds.lookup key = some .truth) :
    t.cleaned.truthRecords key = [] := by
  rw [truthRecords, get?_cleaned_of_kind _ hk]
  rcases t.get? key with _ | v
  · rfl
  · cases v <;> rfl

theorem textsRecords_cleaned (hk : keyKinds.lookup key = some .texts) :
    t.cleaned.textsRecords key = [] := by
  rw [textsRecords, get?_cleaned_of_kind _ hk]
  rcases t.get? key with _ | v
  · rfl
  cases v with
  | list items =>
    refine if_pos (List.all_eq_true.2 fun v hv => ?_)
    have htext := (List.mem_filter.1 hv).2
    cases v with
    | text s => rfl
    | _ => cases htext
  | _ => rfl

end Kinds

theorem standaloneRecords_cleaned : standaloneRecords t.cleaned = [] := by
  rw [standaloneRecords, get?_cleaned_of_kind .textOrOff rfl]
  rcases t.get? "standalone" with _ | _ | _ | _ | _ | (_ | _) | _ <;> rfl

theorem yearSourceRecords_cleaned : yearSourceRecords t.cleaned = [] := by
  rw [yearSourceRecords, get?_cleaned_of_kind .years rfl]
  rcases t.get? "years" with _ | v
  · rfl
  · cases v <;> rfl

theorem mem_knownKeys_of_lookup {key : Text} {kind : SettingKind}
    (h : keyKinds.lookup key = some kind) : key ∈ knownKeys := by
  obtain ⟨_, _, hl, -⟩ := List.lookup_eq_some_iff.1 h
  have hmem : (key, kind) ∈ keyKinds := by simp [hl]
  exact List.mem_map_of_mem (f := Prod.fst) hmem

theorem unknownKeys_cleaned : unknownKeys t.cleaned = [] := by
  have hknown : (t.cleaned.map Prod.fst).filter (fun key => !knownKeys.contains key) = [] := by
    refine List.filter_eq_nil_iff.2 fun key hkey => ?_
    obtain ⟨e, he, rfl⟩ := List.mem_map.1 hkey
    obtain ⟨e', -, he⟩ := List.mem_filterMap.1 he
    obtain ⟨v, hv, rfl⟩ := Option.map_eq_some_iff.1 he
    obtain ⟨w, -, hw⟩ := Option.bind_eq_some_iff.1 hv
    obtain ⟨kind, hkind, -⟩ := Option.bind_eq_some_iff.1 hw
    have hmem : e'.1 ∈ knownKeys := mem_knownKeys_of_lookup hkind
    simpa using hmem
  rw [unknownKeys, hknown]
  rfl

theorem tableRecords_cleaned :
    tableRecordsBeforeYears t.cleaned = [] ∧ tableRecordsAfterYears t.cleaned = [] := by
  constructor
  · rw [tableRecordsBeforeYears, unknownKeys_cleaned, textRecords_cleaned rfl,
      standaloneRecords_cleaned, truthRecords_cleaned rfl, truthRecords_cleaned rfl,
      textsRecords_cleaned rfl, yearSourceRecords_cleaned]
    rfl
  · exact textRecords_cleaned rfl

end Table

theorem YearMap.tableRecords_filter (t : Table) :
    tableRecords (t.filter fun e => e.2.year?.isSome) = [] := by
  refine List.filterMap_eq_nil_iff.2 fun e he => if_pos ?_
  exact (List.mem_filter.1 he).2

/-- What a table gives besides years, a cleaned table gives. -/
theorem Draft.ofTable_cleaned (base : Path) (years : YearMap) (t : Table) :
    ofTable base years t.cleaned = ofTable base years t := by
  have hheader : t.cleaned.text? "header" = t.text? "header" := Table.text?_cleaned (.inl rfl)
  have hstandalone : t.cleaned.text? "standalone" = t.text? "standalone" :=
    Table.text?_cleaned (.inr rfl)
  have hlog : t.cleaned.text? "log_file" = t.text? "log_file" := Table.text?_cleaned (.inl rfl)
  have hfix : t.cleaned.truth? "fix" = t.truth? "fix" := Table.truth?_cleaned rfl
  have hgitignore : t.cleaned.truth? "gitignore" = t.truth? "gitignore" := Table.truth?_cleaned rfl
  have hexcludes : t.cleaned.texts? "excludes" = t.texts? "excludes" := Table.texts?_cleaned rfl
  rw [ofTable, ofTable, hheader, hstandalone, hlog, hfix, hgitignore, hexcludes,
    Table.get?_cleaned_of_kind .textOrOff rfl]
  rcases t.get? "standalone" with _ | _ | _ | _ | _ | (_ | _) | _ <;> rfl

namespace Run

variable {t : Table}

theorem perform_tableYears_cleaned (base : Path)
    (h : ∀ written, t.get? "years" ≠ some (.text written)) :
    ∃ m, ∀ s, ((tableYears base t).perform s).1 = .ok m ∧
      (tableYears base t.cleaned).perform s = (.ok m, s) := by
  rw [tableYears, tableYears, yearSource, yearSource,
    Table.get?_cleaned_of_kind .years rfl]
  rcases hyears : t.get? "years" with _ | v
  · exact ⟨.empty, fun s => ⟨rfl, rfl⟩⟩
  cases v with
  | text written => exact absurd hyears (h written)
  | table entries =>
    have hkept : (entries.filter fun e => e.2.isYear) =
        entries.filter fun e => e.2.year?.isSome := by
      simp only [Value.isYear_eq_isSome]
    refine ⟨.ofTable entries, fun s => ⟨rfl, ?_⟩⟩
    simp only [Option.bind_some, SettingKind.usable?, hkept, YearMap.tableRecords_filter,
      ← YearMap.ofTable_eq_ofTable_filter]
    rfl
  | _ => exact ⟨.empty, fun s => ⟨rfl, rfl⟩⟩

/-- **A bad setting affects nothing but itself.** A table whose years are no text is read without a
failure, in every session and from every directory, and its draft is that of the cleaned table:
without the keys that have no meaning or a value of the wrong kind, without what is no text in a
list of texts, and without what is no year in a table of years. The cleaned table is read without a
record. -/
theorem perform_tableDraft_cleaned (base : Path) (t : Table)
    (h : ∀ written, t.get? "years" ≠ some (.text written)) :
    ∃ d, ∀ s, (∃ s', (tableDraft base t).perform s = (.ok d, s') ∧ s.Keeps s') ∧
      (tableDraft base t.cleaned).perform s = (.ok d, s) := by
  obtain ⟨m, hm⟩ := perform_tableYears_cleaned base h
  refine ⟨.ofTable base m t, fun s =>
    ⟨⟨_, perform_eq_of_fst ?_, (looks_tableDraft base t).keeps rfl⟩, ?_⟩⟩
  · rw [tableDraft, perform_logAll_bind, perform_bind, perform_eq_of_fst (hm _).1]
    rfl
  · rw [tableDraft, t.tableRecords_cleaned.1, t.tableRecords_cleaned.2, perform_logAll_bind,
      perform_bind, List.foldl_nil, (hm s).2, ← Draft.ofTable_cleaned base m t]
    rfl

/-- A table with a mistake in every key but two. -/
def mistakenTable : Table :=
  [("header", .integer 3), ("standalone", .truth true), ("fix", .truth true),
    ("excludes", .list [.text "docs", .integer 1]), ("gitignore", .text "no"),
    ("colour", .text "red"),
    ("years", .table [("a.py", .truth true), ("./b.py", .text "2019 "), ("c.py", .integer 42)]),
    ("log_file", .list [])]

/-- What is left of it. -/
def mendedTable : Table :=
  [("fix", .truth true), ("excludes", .list [.text "docs"]),
    ("years", .table [("./b.py", .text "2019 ")])]

/-- Both tables give a draft that fixes, with an exclude and a year. -/
theorem perform_tableDraft_cleaned_mistaken : ∃ d s',
    (tableDraft (Path.ofText "/etc") mistakenTable).perform datedSession = (.ok d, s') ∧
    (tableDraft (Path.ofText "/etc") mendedTable).perform datedSession = (.ok d, datedSession) ∧
    d = { fix := some true, excludes := ["docs"], years := .single "b.py" 2019 } := by
  have hyears : mistakenTable.get? "years" =
      some (.table [("a.py", .truth true), ("./b.py", .text "2019 "), ("c.py", .integer 42)]) := rfl
  have hmended : mistakenTable.cleaned = mendedTable := rfl
  obtain ⟨d, hd⟩ := perform_tableDraft_cleaned (Path.ofText "/etc") mistakenTable
    fun written h => by
      rw [hyears] at h
      cases h
  obtain ⟨⟨s', hs, -⟩, hclean⟩ := hd datedSession
  rw [hmended] at hclean
  have hgiven : ((tableDraft (Path.ofText "/etc") mendedTable).perform datedSession).1.toOption =
      some { fix := some true, excludes := ["docs"], years := .single "b.py" 2019 } := by
    decide +kernel
  rw [hclean] at hgiven
  exact ⟨d, s', hs, hclean, Option.some.inj hgiven⟩

end Run

end LicenseAudit
