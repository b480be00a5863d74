import LicenseAudit.Proofs.Comment.Breaks
import LicenseAudit.Proofs.Comment.Excision

/-!
# Comments that come into view

When the lines of some blocks are taken out of a file, a scan of the lines that are kept finds the
kept blocks again, but for one thing: a line that ended a removed run was never looked at, and when
it opens a block comment (`Hidden`), that comment comes into view. It may end in the middle of a
block, so that the next comment, too, begins where none began before. This lasts until a block
begins at a line where one began in the old file, for from there on both scans read the same lines.

`accounted` says so of every block found among the kept lines: it is a kept block, or it belongs to
a row of blocks all of which begin where none began before, and the first of which begins at a
hidden line (`Exposed`). Lines are told apart by their numbers in both files (`KeptAt`).

The two scans are compared from break to break. As long as nothing has come into view the segments
of the file end with breaks of both. Behind a hidden line they need not, and the next common break
is where a block begins at its old place (`exists_breaks_of_keptAt`), which may be far behind: hence
the induction on the number of lines.
-/

namespace LicenseAudit

open Text

/-! ## Lines in both files -/

/-- Line `m` is kept, and is line `m'` among the lines that are kept, counted by those in front of
it. All lines are numbered from `number` on, those that are kept from `number'` on. -/
def KeptAt (removed : List Block) (number : Int) (lines : List Text) (number' m m' : Int) : Prop :=
  ∃ i < lines.length, m = number + i ∧ removed.any (·.covers m) = false ∧
    m' = number' + (Document.keepLines removed number (lines.take i)).length

section KeptAt

variable {g : Grammar} {removed : List Block} {number number' m m' : Int}
  {lines front back : List Text}

theorem KeptAt.append (h : KeptAt removed (number + front.length) back
      (number' + (Document.keepLines removed number front).length) m m') :
    KeptAt removed number (front ++ back) number' m m' := by
  obtain ⟨i, hi, hm, hkept, hm'⟩ := h
  refine ⟨front.length + i, by rw [List.length_append]; omega, by omega, hkept, ?_⟩
  rw [List.take_length_add_append, Document.keepLines_append, List.length_append, hm']
  omega

/-- What the lines say does not matter. -/
theorem keptAt_map (f : Text → Text) :
    KeptAt removed number (lines.map f) number' m m' ↔
      KeptAt removed number lines number' m m' := by
  simp only [KeptAt, List.length_map, ← List.map_take, ← Document.map_keepLines]

theorem KeptAt.bounds (h : KeptAt removed number lines number' m m') :
    number ≤ m ∧ number' ≤ m' := by
  obtain ⟨i, -, hm, -, hm'⟩ := h
  omega

/-- Every line that is left was kept. -/
theorem exists_keptAt {k : Nat} (hk : k < (Document.keepLines removed number lines).length) :
    ∃ m, KeptAt removed number lines number' m (number' + k) := by
  induction lines generalizing number number' k with
  | nil => simp [Document.keepLines] at hk
  | cons line rest ih =>
    have hrest : ∀ {m m' : Int}, KeptAt removed (number + ([line].length : Nat)) rest
        (number' + (Document.keepLines removed number [line]).length) m m' →
        KeptAt removed number (line :: rest) number' m m' := KeptAt.append
    rw [Document.keepLines] at hk
    by_cases hc : removed.any (·.covers number) = true
    · rw [if_pos hc] at hk
      obtain ⟨m, hm⟩ := ih hk
      refine ⟨m, hrest ?_⟩
      simpa [Document.keepLines, hc] using hm
    · rw [if_neg hc] at hk
      rw [Bool.not_eq_true] at hc
      cases k with
      | zero => exact ⟨number, 0, by simp, by simp, hc, by simp [Document.keepLines]⟩
      | succ k =>
        have hk' : number' + ((k + 1 : Nat) : Int) = number' + 1 + k := by omega
        have hk'' : k < (Document.keepLines removed (number + 1) rest).length :=
          Nat.lt_of_succ_lt_succ hk
        obtain ⟨m, hm⟩ : ∃ m, KeptAt removed (number + 1) rest (number' + 1) m (number' + 1 + k) :=
          ih hk''
        refine ⟨m, hrest ?_⟩
        rw [hk', keepLines_singleton hc]
        exact hm

theorem exists_keptAt_of_mem {b : Block}
    (hb : b ∈ directScan g number' (Document.keepLines removed number lines)) :
    ∃ m, KeptAt removed number lines number' m b.startLine := by
  obtain ⟨h₁, h₂, h₃⟩ := bounds_of_mem_directScan hb
  obtain ⟨k, hk⟩ := Int.eq_ofNat_of_zero_le (a := b.startLine - number') (by omega)
  obtain ⟨m, hm⟩ : ∃ m, KeptAt removed number lines number' m (number' + k) :=
    exists_keptAt (by omega)
  have hstart : b.startLine = number' + k := by omega
  exact ⟨m, hstart ▸ hm⟩

/-- **Where a block begins at its old place both scans have a break.** -/
theorem exists_breaks_of_keptAt {c e : Block} (hc : c ∈ directScan g number lines)
    (he : e ∈ directScan g number' (Document.keepLines removed number lines))
    (h : KeptAt removed number lines number' c.startLine e.startLine) :
    ∃ front back found found', lines = front ++ back ∧ Breaks g number front back found ∧
      Breaks g number' (Document.keepLines removed number front)
        (Document.keepLines removed (number + front.length) back) found' ∧
      c.startLine = number + front.length ∧
      e.startLine = number' + (Document.keepLines removed number front).length := by
  obtain ⟨front, back, found, rfl, hbreak, hcstart⟩ := breakAt_of_mem hc
  obtain ⟨front', back', found', hlines', hbreak', hestart⟩ := breakAt_of_mem he
  obtain ⟨i, -, hi, -, hplace⟩ := h
  obtain rfl : i = front.length := by omega
  rw [List.take_left] at hplace
  rw [Document.keepLines_append] at hlines'
  obtain ⟨hfront, hback⟩ := List.append_inj hlines' (by omega)
  rw [← hfront, ← hback] at hbreak'
  exact ⟨front, back, found, found', rfl, hbreak, hbreak', hcstart, hplace⟩

end KeptAt

/-! ## Blocks among the kept lines -/

/-- The line of this number, among lines numbered from `number` on. -/
def LineAt (number : Int) (lines : List Text) (m : Int) (line : Text) : Prop :=
  ∃ i : Nat, m = number + i ∧ lines[i]? = some line

/-- The line directly behind a removed run of line comments, when it opens a block comment. It ended
the run, and so it was not looked at. -/
def Hidden (g : Grammar) (removed : List Block) (number : Int) (lines : List Text) (m : Int) :
    Prop :=
  ∃ r ∈ removed, m = r.endLine + 1 ∧
    (∃ first, LineAt number lines r.startLine first ∧ g.openerOn? first = none ∧
      g.isLineComment first = true) ∧
    ∃ next, LineAt number lines m next ∧ (g.openerOn? next).isSome

/-- A line on which no block began before is line `m'` among the kept lines. -/
def Anew (g : Grammar) (removed : List Block) (number : Int) (lines : List Text)
    (number' m' : Int) : Prop :=
  ∃ m, KeptAt removed number lines number' m m' ∧ ∀ c ∈ directScan g number lines, c.startLine ≠ m

/-- A block among the kept lines that belongs to a row of blocks which all begin where none began
before, the first of them at a hidden line. -/
def Exposed (g : Grammar) (removed : List Block) (number : Int) (lines : List Text)
    (number' : Int) (b : Block) : Prop :=
  ∃ f ∈ directScan g number' (Document.keepLines removed number lines),
    (∃ m, Hidden g removed number lines m ∧ KeptAt removed number lines number' m f.startLine) ∧
    f.startLine ≤ b.startLine ∧
    ∀ e ∈ directScan g number' (Document.keepLines removed number lines),
      f.startLine ≤ e.startLine → e.startLine ≤ b.startLine →
        Anew g removed number lines number' e.startLine

/-- A block with the content of one that was not removed. -/
def Kept (g : Grammar) (removed : List Block) (number : Int) (lines : List Text) (b : Block) :
    Prop :=
  ∃ c ∈ directScan g number lines, c.extent ∉ removed.map Block.extent ∧ c.lines = b.lines

/-- Every block found among the kept lines is a block that was not removed, or was exposed. -/
def Accounted (g : Grammar) (removed : List Block) (number : Int) (lines : List Text)
    (number' : Int) : Prop :=
  ∀ b ∈ directScan g number' (Document.keepLines removed number lines),
    Kept g removed number lines b ∨ Exposed g removed number lines number' b

section Accounted

variable {g : Grammar} {removed : List Block} {number number' : Int}
  {front front' back : List Text} {found found' : List Block} {b : Block}

theorem LineAt.append {m : Int} {line : Text} (h : LineAt (number + front.length) back m line) :
    LineAt number (front ++ back) m line := by
  obtain ⟨i, hm, hi⟩ := h
  refine ⟨front.length + i, by omega, ?_⟩
  rwa [List.getElem?_append_right (by omega), Nat.add_sub_cancel_left]

theorem Hidden.append {m : Int} (h : Hidden g removed (number + front.length) back m) :
    Hidden g removed number (front ++ back) m := by
  obtain ⟨r, hr, hm, ⟨first, hfirst, hcomment⟩, next, hnext, hopen⟩ := h
  exact ⟨r, hr, hm, ⟨first, hfirst.append, hcomment⟩, next, hnext.append, hopen⟩

theorem Exposed.append (hs : Breaks g number front back found)
    (hs' : Breaks g number' (Document.keepLines removed number front)
      (Document.keepLines removed (number + front.length) back) found')
    (h : Exposed g removed (number + front.length) back
      (number' + (Document.keepLines removed number front).length) b) :
    Exposed g removed number (front ++ back) number' b := by
  obtain ⟨f, hf, ⟨m, hhidden, hkept⟩, hfb, hrow⟩ := h
  rw [Exposed, Document.keepLines_append]
  refine ⟨f, hs'.mem hf, ⟨m, hhidden.append, hkept.append⟩, hfb, fun e he hfe heb => ?_⟩
  have hle := hkept.bounds.2
  obtain ⟨n, hn, hnone⟩ := hrow e (hs'.mem_of_le he (by omega)) hfe heb
  exact ⟨n, hn.append, hs.startLine_ne hn.bounds.1 hnone⟩

theorem Kept.append (hs : Breaks g number front back found)
    (h : Kept g removed (number + front.length) back b) :
    Kept g removed number (front ++ back) b := by
  obtain ⟨c, hc, hextent, hlines⟩ := h
  exact ⟨c, hs.mem hc, hextent, hlines⟩

/-- Behind a break of both scans nothing depends on what is in front of it. -/
theorem Accounted.of_back (hs : Breaks g number front back found)
    (hs' : Breaks g number' (Document.keepLines removed number front)
      (Document.keepLines removed (number + front.length) back) found')
    (h : Accounted g removed (number + front.length) back
      (number' + (Document.keepLines removed number front).length))
    (hb : b ∈ directScan g (number' + (Document.keepLines removed number front).length)
      (Document.keepLines removed (number + front.length) back)) :
    Kept g removed number (front ++ back) b ∨ Exposed g removed number (front ++ back) number' b :=
  (h b hb).imp (Kept.append hs) (Exposed.append hs hs')

theorem Accounted.append (hs : Breaks g number front back found)
    (hkeep : Document.keepLines removed number front = front')
    (hs' : Breaks g number' front' (Document.keepLines removed (number + front.length) back) found')
    (hfound : ∀ b ∈ found', Kept g removed number (front ++ back) b)
    (h : Accounted g removed (number + front.length) back (number' + front'.length)) :
    Accounted g removed number (front ++ back) number' := by
  subst hkeep
  intro b hb
  rw [Document.keepLines_append, hs'.scan] at hb
  rcases List.mem_append.1 hb with hb | hb
  · exact .inl (hfound b hb)
  · exact h.of_back hs hs' hb

/-- A block that is kept is found again. -/
theorem Accounted.append_kept {content : List Text} {len : Nat}
    (hseg : BlockSegment g front content len)
    (hm : (number, number + (len : Int)) ∉ removed.map Block.extent)
    (hkeep : Document.keepLines removed number front = front)
    (h : ∀ n, Accounted g removed (number + front.length) back n) :
    Accounted g removed number (front ++ back) number' := by
  refine .append (hseg.breaks number back) hkeep (hseg.breaks number' _) (fun b hb => ?_) (h _)
  rw [List.mem_singleton.1 hb, Kept, hseg.scan]
  exact ⟨_, List.mem_cons_self .., hm, rfl⟩

/-- The removed blocks that reach behind a break are among those found behind it. -/
theorem Breaks.removedAmong (h : Breaks g number front back found)
    (hr : RemovedAmong removed (directScan g number (front ++ back)) number) :
    RemovedAmong removed (directScan g (number + front.length) back) (number + front.length) := by
  intro r hmem
  rcases hr r hmem with hlt | ⟨b, hb, hextent⟩
  · exact .inl (by omega)
  · rw [h.scan] at hb
    rcases List.mem_append.1 hb with hb | hb
    · have hend : b.endLine = r.endLine := congrArg Prod.snd hextent
      have := h.before b hb
      exact .inl (by omega)
    · exact .inr ⟨b, hb, hextent⟩

/-- When the kept lines begin with a hidden line, a row of new blocks goes on to the first block at
its old place, and what is found from there on is known from the shorter list of lines. -/
theorem accounted_of_hidden {lines rest : List Text} {next : Text} {m : Int}
    (ih : ∀ back : List Text, back.length < lines.length → ∀ n n',
      RemovedAmong removed (directScan g n back) n → Accounted g removed n back n')
    (h : RemovedAmong removed (directScan g number lines) number)
    (hkeep : Document.keepLines removed number lines = next :: rest)
    (hopen : (g.openerOn? next).isSome) (hhidden : Hidden g removed number lines m)
    (hm : KeptAt removed number lines number' m number')
    (hgone : removed.any (·.covers number) = true) : Accounted g removed number lines number' := by
  intro b hb
  by_cases hrow : ∀ e ∈ directScan g number' (Document.keepLines removed number lines),
      e.startLine ≤ b.startLine → Anew g removed number lines number' e.startLine
  · obtain ⟨f, hf, hstart⟩ := exists_startLine_eq_of_openerOn? hopen (hkeep ▸ hb)
    rw [← hkeep] at hf
    refine .inr ⟨f, hf, ⟨m, hhidden, hstart.symm ▸ hm⟩, ?_, fun e he _ => hrow e he⟩
    rw [hstart]
    exact (bounds_of_mem_directScan hb).1
  · simp only [not_forall] at hrow
    obtain ⟨e, he, heb, hold⟩ := hrow
    obtain ⟨n, hn⟩ := exists_keptAt_of_mem he
    obtain ⟨c, hc, rfl⟩ : ∃ c ∈ directScan g number lines, c.startLine = n := by
      by_contra hnone
      exact hold ⟨n, hn, fun c hc hcn => hnone ⟨c, hc, hcn⟩⟩
    obtain ⟨front, back, found, found', rfl, hs, hs', hcstart, hestart⟩ :=
      exists_breaks_of_keptAt hc he hn
    -- the first line is removed, so that the block at its old place is behind it
    have hfront : front ≠ [] := by
      rintro rfl
      obtain ⟨-, -, -, hkept, -⟩ := hn
      rw [hcstart, List.length_nil, Int.natCast_zero, Int.add_zero, hgone] at hkept
      cases hkept
    have hlen := List.length_pos_iff.2 hfront
    have hback := ih back (by rw [List.length_append]; omega) _
      (number' + (Document.keepLines removed number front).length) (hs.removedAmong h)
    rw [Document.keepLines_append] at hb
    exact hback.of_back hs hs' (hs'.mem_of_le hb (by omega))

/-- Behind a removed run the lines that are kept go on with the line that ended it. -/
theorem keptAt_run {line next : Text} {later rest content : List Text}
    (h : RemovedAmong removed
      (⟨content, number, number + later.length, false, none⟩ ::
        directScan g (number + later.length + 1 + 1) rest) number)
    (hm : (number, number + (later.length : Int)) ∈ removed.map Block.extent) :
    KeptAt removed number (line :: (later ++ next :: rest)) number'
      (number + later.length + 1) number' := by
  have hbehind : ∀ c ∈ directScan g (number + later.length + 1 + 1) rest,
      number + later.length + 1 < c.startLine := fun _ => lt_startLine_of_mem_directScan
  have hrun := keepLines_extent line h fun c hc => by
    have := hbehind c hc
    omega
  have htake : (line :: (later ++ next :: rest)).take (later.length + 1) = line :: later := by
    simp
  refine ⟨later.length + 1, by simp, by omega, ?_, ?_⟩
  · exact any_covers_eq_false (h.tail (by omega) (by dsimp only; omega)) (Int.le_refl _)
      fun c hc _ => hbehind c hc
  · rw [htake, hrun, if_pos hm]
    simp

theorem hidden_run {line next : Text} {later rest : List Text}
    (ho : g.openerOn? line = none) (hc : g.isLineComment line = true)
    (hopen : (g.openerOn? next).isSome)
    (hm : (number, number + (later.length : Int)) ∈ removed.map Block.extent) :
    Hidden g removed number (line :: (later ++ next :: rest)) (number + later.length + 1) := by
  obtain ⟨r, hr, hextent⟩ := List.mem_map.1 hm
  obtain ⟨hstart, hend⟩ := Prod.mk.inj hextent
  refine ⟨r, hr, by omega, ⟨line, ⟨0, by omega, rfl⟩, ho, hc⟩, next, ?_, hopen⟩
  exact ⟨later.length + 1, by omega, by simp⟩

section Step

variable {line next : Text} {later rest : List Text}

theorem accounted_code (ho : g.openerOn? line = none) (hc : g.isLineComment line = false)
    (ih : ∀ n n', RemovedAmong removed (directScan g n rest) n → Accounted g removed n rest n')
    (h : RemovedAmong removed (directScan g number (line :: rest)) number) :
    Accounted g removed number (line :: rest) number' := by
  have hs : Breaks g number [line] rest [] := breaks_code number ho hc
  have hgone : RemovedAmong removed (directScan g (number + 1) rest) number :=
    directScan_code number ho hc ▸ h
  have hkeep : Document.keepLines removed number [line] = [line] :=
    keepLines_singleton (any_covers_eq_false hgone (Int.le_refl _) fun _ hb _ =>
      lt_startLine_of_mem_directScan hb)
  exact .append hs hkeep (breaks_code number' ho hc) (by simp) (ih _ _ (hs.removedAmong h))

theorem accounted_closed {d : BlockDelimiters} (ho : g.openerOn? line = some d)
    (hk : d.closesAfter? (d.behindOpener line) later = some later.length)
    (ih : ∀ n n', RemovedAmong removed (directScan g n rest) n → Accounted g removed n rest n')
    (h : RemovedAmong removed (directScan g number (line :: (later ++ rest))) number) :
    Accounted g removed number (line :: (later ++ rest)) number' := by
  have hseg := blockSegment_closed ho hk
  have hs := hseg.breaks number rest
  have hback := hs.removedAmong h
  rw [directScan_closed number ho hk] at h
  have hkeep := keepLines_extent line h fun _ => lt_startLine_of_mem_directScan
  by_cases hm : (number, number + (later.length : Int)) ∈ removed.map Block.extent
  · rw [if_pos hm] at hkeep
    exact .append hs hkeep (.nil g number' _) (by simp) (ih _ _ hback)
  · rw [if_neg hm] at hkeep
    exact .append_kept hseg hm hkeep fun n => ih _ n hback

theorem accounted_openRun (ho : g.openerOn? line = none)
    (hr : ∀ l ∈ line :: later, g.isLineComment l = true)
    (h : RemovedAmong removed (directScan g number (line :: later)) number) :
    Accounted g removed number (line :: later) number' := by
  intro b hb
  rw [directScan_openRun number ho hr] at h
  rw [keepLines_extent line h (by simp)] at hb
  split at hb
  · rw [directScan_nil] at hb
    cases hb
  · next hm =>
    rw [directScan_openRun number' ho hr, List.mem_singleton] at hb
    rw [hb, Kept, directScan_openRun number ho hr]
    exact .inl ⟨_, List.mem_singleton_self _, hm, rfl⟩

/-- The line that ends a removed run may open a comment, which then comes into view. -/
theorem accounted_run (ho : g.openerOn? line = none)
    (hr : ∀ l ∈ line :: later, g.isLineComment l = true) (hn : g.isLineComment next = false)
    (ih : ∀ back : List Text, back.length < (line :: (later ++ next :: rest)).length → ∀ n n',
      RemovedAmong removed (directScan g n back) n → Accounted g removed n back n')
    (h : RemovedAmong removed (directScan g number (line :: (later ++ next :: rest))) number) :
    Accounted g removed number (line :: (later ++ next :: rest)) number' := by
  have hseg := blockSegment_run ho hr hn
  have hs := hseg.breaks number rest
  have hsplit : line :: (later ++ next :: rest) = line :: (later ++ [next]) ++ rest := by simp
  have hrun := h
  rw [directScan_run number ho hr hn] at hrun
  have hkeep := keepLines_run line next hrun fun _ => lt_startLine_of_mem_directScan
  have hlt : rest.length < (line :: (later ++ next :: rest)).length := by
    simp only [List.length_cons, List.length_append]
    omega
  have hrest : ∀ n', Accounted g removed (number + (line :: (later ++ [next])).length) rest n' :=
    fun n' => ih rest hlt _ n' (hs.removedAmong (hsplit ▸ h))
  by_cases hm : (number, number + (later.length : Int)) ∈ removed.map Block.extent
  · rw [if_pos hm] at hkeep
    cases hopen : g.openerOn? next with
    | none =>
      rw [hsplit]
      exact .append hs hkeep (breaks_code number' hopen hn) (by simp) (hrest _)
    | some d =>
      have hsome : (g.openerOn? next).isSome := by rw [hopen]; rfl
      have hkept : Document.keepLines removed number (line :: (later ++ next :: rest)) =
          next :: Document.keepLines removed
            (number + (line :: (later ++ [next])).length) rest := by
        rw [hsplit, Document.keepLines_append, hkeep]
        rfl
      refine accounted_of_hidden ih h hkept hsome
        (hidden_run ho (hr line (List.mem_cons_self ..)) hsome hm) (keptAt_run hrun hm) ?_
      exact any_covers_eq_true (b := ⟨[], _, _, false, none⟩) hm (Int.le_refl _)
        (by dsimp only; omega)
  · rw [if_neg hm] at hkeep
    rw [hsplit]
    exact .append_kept hseg hm hkeep hrest

end Step

/-- **Every block among the kept lines is one that was not removed, or was exposed.** -/
theorem accounted (lines : List Text)
    (h : RemovedAmong removed (directScan g number lines) number) :
    Accounted g removed number lines number' := by
  induction hlen : lines.length using Nat.strongRecOn generalizing lines number number' with
  | ind len ih =>
  subst hlen
  have hshorter : ∀ back : List Text, back.length < lines.length → ∀ n n',
      RemovedAmong removed (directScan g n back) n → Accounted g removed n back n' :=
    fun back hlt _ _ hback => ih _ hlt back hback rfl
  cases segmented g lines with
  | nil =>
    intro b hb
    rw [Document.keepLines, directScan_nil] at hb
    cases hb
  | code ho hc _ => exact accounted_code ho hc (hshorter _ (by simp)) h
  | unclosed ho hk =>
    intro b hb
    rw [directScan_unclosed number ho hk] at h
    rw [Document.keepLines_eq_self fun k h₁ _ => any_covers_eq_false h h₁ (by simp),
      directScan_unclosed number' ho hk] at hb
    cases hb
  | closed ho hk _ =>
    refine accounted_closed ho hk (hshorter _ ?_) h
    simp only [List.length_cons, List.length_append]
    omega
  | openRun ho hr => exact accounted_openRun ho hr h
  | run ho hr hn _ => exact accounted_run ho hr hn hshorter h

end Accounted

end LicenseAudit
