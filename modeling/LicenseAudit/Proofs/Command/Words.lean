import LicenseAudit.Proofs.Command.Stages
import LicenseAudit.Proofs.Tree.Locations

/-!
# The words of a check

The words of a command line are read up to the name of a command, and from there on by the command
(`readWords_append`). `LineCourse` names the ways in which the command line of a check ends
(`lineCourse_of_conclude`): before the check, by what is wrong with its words or the level of the
log, or in one of the courses of the check.

An option for a fix that is put before the words of a check orders the fix and changes nothing else
that the words ask for (`CheckCall.ofWords_fix`).
-/

namespace LicenseAudit

open Text

/-! ## Reading words -/

section Reading

variable {specs : List OptionSpec} {pending : Option (Text × Text)} {given : List GivenOption}
  {words front : List Text} {name word : Text}

/-- Words that are all options leave the name of a command behind them, and what follows it, as
they are. -/
theorem readWords_append (hname : isOptionWord name = false)
    (h : readWords specs false pending front = .ok (given, [])) :
    readWords specs false pending (front ++ name :: words) = .ok (given, name :: words) := by
  have hdashes : name ≠ ['-', '-'] := by
    rintro rfl
    simp [isOptionWord] at hname
  induction front generalizing pending given with
  | nil =>
    rcases pending with _ | ⟨_, _⟩
    · simp only [readWords, Except.ok.injEq, Prod.mk.injEq, and_true] at h
      simp [readWords, hdashes, hname, h]
    · simp [readWords] at h
  | cons word front ih =>
    rw [List.cons_append]
    rcases pending with _ | ⟨_, long⟩
    · simp only [readWords] at h ⊢
      split at h
      · cases h
        simp [*]
      · split at h
        · next hdashes hoption =>
          rw [if_neg hdashes, if_pos hoption]
          rcases hw : readWord specs word with f | w <;>
            simp only [hw, bind, Except.bind] at h ⊢
          · simp at h
          · split at h
            · simp at h
            · next r hr =>
              obtain ⟨g, ws⟩ := r
              cases h
              rw [ih hr]
              rfl
        · simp at h
    · simp only [readWords, bind, Except.bind] at h ⊢
      split at h
      · simp at h
      · next r hr =>
        obtain ⟨g, ws⟩ := r
        cases h
        rw [ih hr]
        rfl

/-- The command line of a check: options of the program, the name of the command, its words. -/
def checkLine (front words : List Text) : List Text := front ++ ("check" : Text) :: words

/-- The options of the program end at the name of the command. -/
theorem readOptions_checkLine
    (hfront : readOptions Command.program.options false front = .ok (given, [])) :
    readOptions Command.program.options false (checkLine front words) =
      .ok (given, "check" :: words) :=
  readWords_append (by decide) hfront

end Reading

/-! ## Adding an option -/

section Search

variable {α β : Type} [BEq α] [LawfulBEq α] {f : α → Option β} {a : α}

/-- An element that gives nothing is not missed. -/
theorem findSome?_filter_ne (h : f a = none) (l : List α) :
    (l.filter fun b => !b == a).findSome? f = l.findSome? f := by
  induction l with
  | nil => rfl
  | cons b l ih =>
    by_cases hb : b = a
    · subst hb
      rw [List.filter_cons_of_neg (by simp), List.findSome?_cons, h, ih]
    · rw [List.filter_cons_of_pos (by simpa using hb), List.findSome?_cons, List.findSome?_cons, ih]

/-- Of equal elements only the first one can give what is found first. -/
theorem findSome?_eraseDups : ∀ l : List α, l.eraseDups.findSome? f = l.findSome? f
  | [] => rfl
  | a :: l => by
    have hlength : (l.filter fun b => !b == a).length < l.length + 1 :=
      Nat.lt_succ_of_le (List.length_filter_le ..)
    rw [List.eraseDups_cons, List.findSome?_cons, List.findSome?_cons, findSome?_eraseDups]
    split
    · rfl
    · next hnone => exact findSome?_filter_ne hnone l
termination_by l => l.length

end Search

/-- The words of a check with a fix ordered before them. -/
theorem readOptions_fix (words : List Text) :
    readOptions Command.check.options true ("--fix" :: words) =
      (readOptions Command.check.options true words).map fun r => (⟨"--fix", []⟩ :: r.1, r.2) := by
  have hword : readWord Command.check.options "--fix" = .ok { given := [⟨"--fix", []⟩] } := by
    rfl
  rw [readOptions, readWords, if_neg (by decide), if_pos (by decide), hword]
  simp only [bind, Except.bind, readOptions]
  rcases readWords Command.check.options true none words with f | ⟨given, rest⟩ <;> rfl

namespace CheckCall

/-- The call with a fix. -/
def fixing (c : CheckCall) : CheckCall := { c with overrides := { c.overrides with fix := true } }

variable {t : FileTree} {cwd : Location} {given : List GivenOption} {words : List Text}

theorem values_fix {long : Text} (h : long ≠ "--fix") :
    GivenOption.values (⟨"--fix", []⟩ :: given) long = GivenOption.values given long := by
  rw [GivenOption.values, List.filter_cons_of_neg (by simpa using h.symm), GivenOption.values]

theorem value?_fix {long : Text} (h : long ≠ "--fix") :
    GivenOption.value? (⟨"--fix", []⟩ :: given) long = GivenOption.value? given long := by
  rw [GivenOption.value?, values_fix h, GivenOption.value?]

theorem has_fix {long : Text} (h : long ≠ "--fix") :
    GivenOption.has (⟨"--fix", []⟩ :: given) long = GivenOption.has given long := by
  rw [GivenOption.has, List.any_cons, beq_eq_false_iff_ne.2 h.symm, Bool.false_or, GivenOption.has]

theorem optionEnding?_fix :
    optionEnding? t cwd (⟨"--fix", []⟩ :: given) = optionEnding? t cwd given := by
  rw [optionEnding?, optionEnding?, findSome?_eraseDups, findSome?_eraseDups, List.map_cons,
    List.findSome?_cons]
  have hfix : fileDemand? "--fix" = none := by rfl
  simp only [hfix, Option.bind_eq_bind, Option.bind_none]
  -- The values of the options that name files are the same.
  refine congrArg (List.findSome? · _) (funext fun long => ?_)
  by_cases h : long = "--fix"
  · rw [h, hfix]
    rfl
  · rw [value?_fix h]

theorem ofWords_fix : ofWords t cwd (⟨"--fix", []⟩ :: given) words =
    (ofWords t cwd given words).map fixing := by
  unfold ofWords
  rw [optionEnding?_fix]
  extract_lets path? has path?' has'
  have hpath : ∀ long : String, long.toList ≠ "--fix" → path? long = path?' long := fun long h => by
    simp only [path?, path?', value?_fix h]
  have hhas : ∀ long : String, long.toList ≠ "--fix" → has long = has' long := fun long h => by
    simp only [has, has', has_fix h]
  rcases optionEnding? t cwd given with _ | e
  · rcases words with _ | ⟨word, extra⟩
    · rfl
    · dsimp only
      rcases pathDemand.ending? t cwd word with _ | e
      · rcases extra with _ | ⟨other, extra⟩
        · simp only [hpath _ (by decide : "--header".toList ≠ "--fix".toList),
            hpath _ (by decide : "--standalone".toList ≠ "--fix".toList),
            hpath _ (by decide : "--log-file".toList ≠ "--fix".toList),
            hpath _ (by decide : "--config".toList ≠ "--fix".toList),
            hhas _ (by decide : "--no-standalone".toList ≠ "--fix".toList),
            hhas _ (by decide : "--no-gitignore".toList ≠ "--fix".toList),
            hhas _ (by decide : "--no-config".toList ≠ "--fix".toList),
            hhas _ (by decide : "--summary".toList ≠ "--fix".toList),
            values_fix (by decide : "--exclude".toList ≠ "--fix".toList),
            value?_fix (by decide : "--years".toList ≠ "--fix".toList)]
          rfl
        · rfl
      · rfl
  · rfl

end CheckCall

/-! ## Words that are refused -/

/-- A value of an option that names a file, or a word, holds the character that ends a path. -/
def NullIn (given : List GivenOption) (words : List Text) : Prop :=
  (∃ o ∈ given, (fileDemand? o.long).isSome ∧ '\x00' ∈ o.value) ∨ ∃ word ∈ words, '\x00' ∈ word

section Refused

variable {t : FileTree} {cwd : Location} {given : List GivenOption} {words : List Text}
  {value long : Text} {e : Ending} {d : FileDemand} {c : CheckCall}

theorem FileDemand.ending?_eq_some (h : d.ending? t cwd value = some e) :
    (∃ f, e = .misused .check f) ∨ e = .broken .nullInPath ∧ '\x00' ∈ value := by
  rw [ending?] at h
  split at h
  · next hnull =>
    cases h
    exact .inr ⟨rfl, List.contains_iff_mem.1 hnull⟩
  · obtain ⟨f, -, rfl⟩ := Option.map_eq_some_iff.1 h
    exact .inl ⟨f, rfl⟩

theorem FileDemand.not_mem_of_ending?_eq_none (h : d.ending? t cwd value = none) :
    '\x00' ∉ value := by
  rw [ending?] at h
  split at h
  · simp at h
  · next hnull => simpa using hnull

theorem GivenOption.exists_mem_of_value?_eq_some (h : value? given long = some value) :
    ∃ o ∈ given, o.long = long ∧ o.value = value := by
  obtain ⟨o, ho, rfl⟩ := List.mem_map.1 (List.mem_of_getLast? h)
  obtain ⟨ho, hlong⟩ := List.mem_filter.1 ho
  exact ⟨o, ho, by simpa using hlong, rfl⟩

theorem optionEnding?_eq_some (h : optionEnding? t cwd given = some e) :
    (∃ f, e = .misused .check f) ∨ e = .broken .nullInPath ∧ NullIn given words := by
  obtain ⟨long, -, h⟩ := List.exists_of_findSome?_eq_some h
  obtain ⟨d, hd, h⟩ := Option.bind_eq_some_iff.1 h
  obtain ⟨value, hvalue, h⟩ := Option.bind_eq_some_iff.1 h
  obtain ⟨o, ho, rfl, rfl⟩ := GivenOption.exists_mem_of_value?_eq_some hvalue
  exact (FileDemand.ending?_eq_some h).imp id fun ⟨he, hnull⟩ =>
    ⟨he, .inl ⟨o, ho, by rw [hd]; rfl, hnull⟩⟩

theorem not_mem_of_optionEnding?_eq_none (h : optionEnding? t cwd given = none)
    (hd : fileDemand? long = some d) (hvalue : GivenOption.value? given long = some value) :
    '\x00' ∉ value := by
  rw [optionEnding?, findSome?_eraseDups, List.findSome?_eq_none_iff] at h
  obtain ⟨o, ho, rfl, -⟩ := GivenOption.exists_mem_of_value?_eq_some hvalue
  have hnone := h o.long (List.mem_map.2 ⟨o, ho, rfl⟩)
  rw [hd, Option.bind_eq_bind, Option.bind_some, hvalue, Option.bind_eq_bind,
    Option.bind_some] at hnone
  exact FileDemand.not_mem_of_ending?_eq_none hnone

/-- Words that are no call are refused with a report, unless one that has to name a file holds the
character that ends a path. -/
theorem CheckCall.ofWords_eq_error (h : ofWords t cwd given words = .error e) :
    (∃ f, e = .misused .check f) ∨ e = .broken .nullInPath ∧ NullIn given words := by
  unfold ofWords at h
  extract_lets at h
  rcases hoption : optionEnding? t cwd given with _ | e' <;> rw [hoption] at h
  · rcases words with _ | ⟨word, extra⟩
    · cases h
      exact .inl ⟨_, rfl⟩
    · dsimp only at h
      rcases hpath : pathDemand.ending? t cwd word with _ | e' <;> rw [hpath] at h
      · rcases extra with _ | _
        · simp at h
        · cases h
          exact .inl ⟨_, rfl⟩
      · cases h
        exact (FileDemand.ending?_eq_some hpath).imp id fun ⟨he, hnull⟩ =>
          ⟨he, .inr ⟨word, List.mem_cons_self .., hnull⟩⟩
  · cases h
    exact optionEnding?_eq_some hoption

/-- The paths of a call hold no character that ends a path. -/
theorem CheckCall.holdsNull_of_ofWords (h : ofWords t cwd given words = .ok c) :
    c.path.holdsNull = false ∧ ∀ p ∈ c.settings, p.holdsNull = false := by
  unfold ofWords at h
  extract_lets path? at h
  rcases hoption : optionEnding? t cwd given with _ | e <;> rw [hoption] at h
  · rcases words with _ | ⟨word, extra⟩
    · simp at h
    · dsimp only at h
      rcases hpath : pathDemand.ending? t cwd word with _ | e <;> rw [hpath] at h
      · rcases extra with _ | _
        · cases h
          refine ⟨Path.holdsNull_ofText (FileDemand.not_mem_of_ending?_eq_none hpath),
            fun p hp => ?_⟩
          obtain ⟨value, hvalue, rfl⟩ := Option.map_eq_some_iff.1 hp
          exact Path.holdsNull_ofText (not_mem_of_optionEnding?_eq_none hoption rfl hvalue)
        · simp at h
      · simp at h
  · simp at h

end Refused

/-! ## From the words to the check -/

/-- The check that words ask for in a session, unless they ask for help or are refused. -/
def Session.checkCall? (s : Session) (words : List Text) : Option CheckCall :=
  match readOptions Command.check.options true words with
  | .error _ => none
  | .ok (given, rest) =>
    if GivenOption.has given "--help" then none
    else (CheckCall.ofWords s.tree s.workingDirectory given rest).toOption

/-- The settings that the words of a check come to in a session. -/
def Session.checkSettings? (s : Session) (words : List Text) : Option Settings :=
  (s.checkCall? words).bind fun c => ((Run.checkSettings c).perform s).1.toOption

namespace Session

variable {s : Session} {words : List Text} {c : CheckCall} {settings : Settings}

theorem checkCall?_eq_some_iff : s.checkCall? words = some c ↔ ∃ given rest,
    readOptions Command.check.options true words = .ok (given, rest) ∧
      GivenOption.has given "--help" = false ∧
      CheckCall.ofWords s.tree s.workingDirectory given rest = .ok c := by
  rw [checkCall?]
  rcases readOptions Command.check.options true words with f | ⟨given, rest⟩
  · simp
  dsimp only
  constructor
  · intro h
    split at h
    · simp at h
    · next hnohelp => exact ⟨given, rest, rfl, by simpa using hnohelp, eq_ok_of_toOption h⟩
  · rintro ⟨_, _, h, hnohelp, hcall⟩
    cases h
    rw [hnohelp, hcall]
    rfl

theorem checkSettings?_eq_some_iff : s.checkSettings? words = some settings ↔
    ∃ c, s.checkCall? words = some c ∧ ((Run.checkSettings c).perform s).1 = .ok settings := by
  rw [checkSettings?, Option.bind_eq_some_iff]
  refine exists_congr fun c => and_congr_right fun _ => ⟨eq_ok_of_toOption, fun h => ?_⟩
  rw [h]
  rfl

end Session

/-- The terminal that options of the program ask for. -/
def Terminal.ofOptions (given : List GivenOption) : Terminal where
  colored := !GivenOption.has given "--no-color"
  quiet := GivenOption.has given "--quiet"

namespace Task

variable {s s' : Session} {e : Ending} {environment : Option Text} {line words : List Text}
  {given : List GivenOption}

theorem conclude_showHelp (c : Command) :
    ∃ s', (showHelp c).conclude s = (.exit .success, s') ∧ s.Keeps s' :=
  ⟨_, rfl, s.keeps_output _⟩

theorem conclude_settleLevel_bind (g : Unit → Task Ending) :
    (settleLevel given environment >>= g).conclude s =
      match Level.ofCounts (GivenOption.count given "--verbose")
        (GivenOption.count given "--quiet") with
      | .error f => (.error .badUsage f.message, s)
      | .ok asked =>
        match Level.ofEnvironment environment with
        | .error f => (.broken f, s)
        | .ok named => (g ()).conclude { s with threshold := some (named.getD asked) } := by
  rw [conclude_bind, settleLevel]
  rcases Level.ofCounts _ _ with f | asked
  · rfl
  · rcases Level.ofEnvironment environment with f | named <;> rfl

theorem conclude_command_check (t : Terminal) (words : List Text) :
    (command t .check words).conclude s =
      match readOptions Command.check.options true words with
      | .error f => (.misused .check (.option f), s)
      | .ok (given, rest) =>
        if GivenOption.has given "--help" then (showHelp .check).conclude s
        else
          match CheckCall.ofWords s.tree s.workingDirectory given rest with
          | .error e => (e, s)
          | .ok c => (check t c).conclude s := by
  rw [command]
  rcases readOptions Command.check.options true words with f | ⟨given, rest⟩
  · rfl
  dsimp only
  split
  · rfl
  · rw [conclude_bind]
    change (match CheckCall.ofWords s.tree s.workingDirectory given rest with
      | .error e => finish e
      | .ok call => check t call : Task Ending).conclude s = _
    rcases CheckCall.ofWords s.tree s.workingDirectory given rest with e | c <;> rfl

theorem conclude_commandLine
    (hread : readOptions Command.program.options false line = .ok (given, "check" :: words)) :
    (commandLine line environment).conclude s =
      if GivenOption.has given "--help" then (showHelp .program).conclude s
      else
        match Level.ofCounts (GivenOption.count given "--verbose")
          (GivenOption.count given "--quiet") with
        | .error f => (.error .badUsage f.message, s)
        | .ok asked =>
          match Level.ofEnvironment environment with
          | .error f => (.broken f, s)
          | .ok named =>
            (command (.ofOptions given) .check words).conclude
              { s with threshold := some (named.getD asked) } := by
  have hname : Command.named? "check" = some .check := by rfl
  rw [commandLine, hread]
  dsimp only
  split
  · rfl
  · rw [hname]
    exact conclude_settleLevel_bind _

end Task

theorem runCommandLine_eq (line : List Text) (environment : Option Text) (s : Session) :
    runCommandLine line environment s =
      (((Task.commandLine line environment).conclude s).1,
        { ((Task.commandLine line environment).conclude s).2 with
          threshold := none
          logFile := none }) := by
  rw [runCommandLine, Task.conclude, Task.perform]
  rcases (ExceptT.run (Task.commandLine line environment)).run s with ⟨_ | _, _⟩ <;> rfl

/-- How the command line of a check ends and the session that it leaves behind. -/
inductive LineCourse (environment : Option Text) (words : List Text) (s : Session) :
    Ending → Session → Prop
  | help {s' : Session} (hk : s.Keeps s') : LineCourse environment words s (.exit .success) s'
  /-- The words are not understood, or do not go together. -/
  | refused {code : ExitCode} {report : Text} {s' : Session} (hk : s.Keeps s') :
    LineCourse environment words s (.refused code report) s'
  | badLevel {f : Failure} (h : Level.ofEnvironment environment = .error f) :
    LineCourse environment words s (.broken f) s
  | nullInWord {given : List GivenOption} {rest : List Text} {s' : Session}
    (hread : readOptions Command.check.options true words = .ok (given, rest))
    (hnull : NullIn given rest) (hk : s.Keeps s') :
    LineCourse environment words s (.broken .nullInPath) s'
  | checked {c : CheckCall} {e : Ending} {s₁ s' : Session} (hc : s.checkCall? words = some c)
    (hk : s.Keeps s₁) (h : CheckCourse c s₁ e s') : LineCourse environment words s e s'

/-- A command line that names the command takes one of these courses. -/
theorem lineCourse_of_conclude {environment : Option Text} {line words : List Text}
    {given : List GivenOption} {s s' : Session} {e : Ending}
    (hread : readOptions Command.program.options false line = .ok (given, "check" :: words))
    (h : (Task.commandLine line environment).conclude s = (e, s')) :
    LineCourse environment words s e s' := by
  rw [Task.conclude_commandLine hread] at h
  split at h
  · obtain ⟨s₁, hhelp, hk⟩ := Task.conclude_showHelp (s := s) .program
    rw [hhelp] at h
    cases h
    exact .help hk
  rcases hcounts : Level.ofCounts (GivenOption.count given "--verbose")
    (GivenOption.count given "--quiet") with f | asked <;> rw [hcounts] at h
  · cases h
    exact .refused (.refl s)
  dsimp only at h
  rcases hlevel : Level.ofEnvironment environment with f | named <;> rw [hlevel] at h
  · cases h
    exact .badLevel hlevel
  dsimp only at h
  have hk : s.Keeps { s with threshold := some (named.getD asked) } :=
    ⟨rfl, rfl, rfl, fun _ => rfl, fun _ _ => rfl⟩
  rw [Task.conclude_command_check] at h
  rcases hwords : readOptions Command.check.options true words with f | ⟨given', rest⟩ <;>
    rw [hwords] at h
  · cases h
    exact .refused hk
  dsimp only at h
  split at h
  · obtain ⟨s₁, hhelp, hk₁⟩ := Task.conclude_showHelp
      (s := { s with threshold := some (named.getD asked) }) .check
    rw [hhelp] at h
    cases h
    exact .help (hk.trans hk₁)
  · next hnohelp =>
    rcases hcall : CheckCall.ofWords s.tree s.workingDirectory given' rest with e' | c <;>
      rw [hcall] at h
    · cases h
      obtain ⟨f, rfl⟩ | ⟨rfl, hnull⟩ := CheckCall.ofWords_eq_error hcall
      · exact .refused hk
      · exact .nullInWord hwords hnull hk
    · exact .checked (Session.checkCall?_eq_some_iff.2
        ⟨given', rest, hwords, by simpa using hnohelp, hcall⟩) hk (checkCourse_of_conclude h)

end LicenseAudit
