import LicenseAudit.Proofs.Comment.Segments

/-!
# Breaks

A break is a place between two lines where no comment is open. A scan of all the lines finds what
it finds in front of a break and then what a scan that starts at the break finds (`Breaks`). So what
is known of the lines behind a break can be carried over to all of them.

Every segment ends with a break, and a segment that is a block is read as the same block whatever
comes behind it (`BlockSegment`). There is a break in front of every block (`breakAt_of_mem`), which
is where scans of different lines may be compared.
-/

namespace LicenseAudit

open Text

/-! ## Breaks -/

/-- No comment is open between the front and the back: a scan finds some blocks that end in the
front, and goes on in the back as it would start there. -/
structure Breaks (g : Grammar) (number : Int) (front back : List Text) (found : List Block) :
    Prop where
  scan : directScan g number (front ++ back) = found ++ directScan g (number + front.length) back
  before : ∀ b ∈ found, b.endLine < number + front.length

namespace Breaks

variable {g : Grammar} {number : Int} {front middle back : List Text} {found found' : List Block}
  {b : Block}

theorem nil (g : Grammar) (number : Int) (back : List Text) : Breaks g number [] back [] :=
  ⟨by simp, by simp⟩

theorem append (h : Breaks g number front (middle ++ back) found)
    (h' : Breaks g (number + front.length) middle back found') :
    Breaks g number (front ++ middle) back (found ++ found') := by
  have hlen : number + ((front ++ middle).length : Int) =
      number + front.length + middle.length := by
    rw [List.length_append]
    omega
  refine ⟨?_, fun b hb => ?_⟩
  · rw [List.append_assoc, h.scan, h'.scan, List.append_assoc, hlen]
  · rw [hlen]
    rcases List.mem_append.1 hb with hb | hb
    · have := h.before b hb
      omega
    · exact h'.before b hb

theorem mem (h : Breaks g number front back found)
    (hb : b ∈ directScan g (number + front.length) back) :
    b ∈ directScan g number (front ++ back) :=
  h.scan ▸ List.mem_append_right found hb

/-- A block that begins behind the break is found from there on. -/
theorem mem_of_le (h : Breaks g number front back found)
    (hb : b ∈ directScan g number (front ++ back)) (hle : number + front.length ≤ b.startLine) :
    b ∈ directScan g (number + front.length) back := by
  have hbounds := bounds_of_mem_directScan hb
  rw [h.scan] at hb
  rcases List.mem_append.1 hb with hb | hb
  · have := h.before b hb
    omega
  · exact hb

/-- A block that begins on a line behind the break does so in both scans or in neither. -/
theorem startLine_ne (h : Breaks g number front back found) {m : Int}
    (hm : number + front.length ≤ m)
    (hback : ∀ c ∈ directScan g (number + front.length) back, c.startLine ≠ m) :
    ∀ c ∈ directScan g number (front ++ back), c.startLine ≠ m := by
  rintro c hc rfl
  exact hback c (h.mem_of_le hc hm) rfl

end Breaks

/-- Whatever follows them, these lines are read as one block, which begins on the first of them and
ends `len` lines later. -/
structure BlockSegment (g : Grammar) (front content : List Text) (len : Nat) : Prop where
  len_lt : len < front.length
  scan : ∀ (n : Int) (back : List Text), directScan g n (front ++ back) =
    ⟨content, n, n + len, false, none⟩ :: directScan g (n + front.length) back

theorem BlockSegment.breaks {g : Grammar} {front content : List Text} {len : Nat}
    (h : BlockSegment g front content len) (n : Int) (back : List Text) :
    Breaks g n front back [⟨content, n, n + len, false, none⟩] where
  scan := h.scan n back
  before b hb := by
    have := h.len_lt
    rw [List.mem_singleton.1 hb]
    dsimp only
    omega

section Segments

variable {g : Grammar} {line next : Text} {later rest : List Text} {d : BlockDelimiters}

theorem breaks_code (number : Int) (ho : g.openerOn? line = none)
    (hc : g.isLineComment line = false) : Breaks g number [line] rest [] :=
  ⟨directScan_code number ho hc, by simp⟩

theorem blockSegment_closed (ho : g.openerOn? line = some d)
    (hk : d.closesAfter? (d.behindOpener line) later = some later.length) :
    BlockSegment g (line :: later) (d.content (d.behindOpener line) later) later.length where
  len_lt := Nat.lt_succ_self _
  scan n back := by
    rw [List.length_cons, Int.natCast_succ, ← Int.add_assoc]
    exact directScan_closed n ho hk

theorem blockSegment_run (ho : g.openerOn? line = none)
    (hr : ∀ l ∈ line :: later, g.isLineComment l = true) (hn : g.isLineComment next = false) :
    BlockSegment g (line :: (later ++ [next])) ((line :: later).map g.lineContent)
      later.length where
  len_lt := by
    simp only [List.length_cons, List.length_append]
    omega
  scan n back := by
    have hsplit : line :: (later ++ [next]) ++ back = line :: (later ++ next :: back) := by simp
    have hlen : n + ((line :: (later ++ [next])).length : Int) = n + later.length + 1 + 1 := by
      simp only [List.length_cons, List.length_append, List.length_nil]
      omega
    rw [hsplit, hlen]
    exact directScan_run n ho hr hn

/-- A line that opens a comment is the first line of a block, unless nothing is found at all. -/
theorem exists_startLine_eq_of_openerOn? {number : Int} {b : Block}
    (ho : (g.openerOn? line).isSome) (hb : b ∈ directScan g number (line :: rest)) :
    ∃ f ∈ directScan g number (line :: rest), f.startLine = number := by
  obtain ⟨d, ho⟩ := Option.isSome_iff_exists.1 ho
  cases hk : d.closesAfter? (d.behindOpener line) rest with
  | none =>
    rw [directScan_unclosed number ho hk] at hb
    cases hb
  | some k =>
    rw [directScan, ho]
    dsimp only
    rw [hk]
    exact ⟨_, List.mem_cons_self .., rfl⟩

end Segments

/-! ## Breaks in front of blocks -/

/-- There is a break directly in front of the line of this number. -/
def BreakAt (g : Grammar) (number : Int) (lines : List Text) (m : Int) : Prop :=
  ∃ front back found, lines = front ++ back ∧ Breaks g number front back found ∧
    m = number + front.length

section BreakAt

variable {g : Grammar} {number : Int} {front back : List Text} {found : List Block} {b : Block}

/-- A break of the lines behind a break is one of all the lines. -/
theorem BreakAt.append {m : Int} (h : Breaks g number front back found)
    (h' : BreakAt g (number + front.length) back m) : BreakAt g number (front ++ back) m := by
  obtain ⟨middle, back, found', rfl, hbreaks, hm⟩ := h'
  refine ⟨front ++ middle, back, _, (List.append_assoc ..).symm, h.append hbreaks, ?_⟩
  rw [hm, List.length_append]
  omega

theorem BlockSegment.breakAt {content : List Text} {len : Nat}
    (h : BlockSegment g front content len) (hb : b ∈ directScan g number (front ++ back))
    (ih : b ∈ directScan g (number + front.length) back →
      BreakAt g (number + front.length) back b.startLine) :
    BreakAt g number (front ++ back) b.startLine := by
  rw [h.scan] at hb
  rcases List.mem_cons.1 hb with rfl | hb
  · exact ⟨[], _, _, rfl, .nil g number _, by simp⟩
  · exact .append (h.breaks number back) (ih hb)

/-- **In front of every block there is a break.** -/
theorem breakAt_of_mem {lines : List Text} (hb : b ∈ directScan g number lines) :
    BreakAt g number lines b.startLine := by
  induction segmented g lines generalizing number with
  | nil =>
    rw [directScan_nil] at hb
    cases hb
  | code ho hc _ ih =>
    rw [directScan_code number ho hc] at hb
    exact .append (breaks_code number ho hc) (ih hb)
  | unclosed ho hk =>
    rw [directScan_unclosed number ho hk] at hb
    cases hb
  | closed ho hk _ ih => exact (blockSegment_closed ho hk).breakAt hb ih
  | openRun ho hr =>
    rw [directScan_openRun number ho hr, List.mem_singleton] at hb
    subst hb
    exact ⟨[], _, _, rfl, .nil g number _, by simp⟩
  | @run line next later rest ho hr hn _ ih =>
    have hsplit : line :: (later ++ next :: rest) = line :: (later ++ [next]) ++ rest := by simp
    rw [hsplit] at hb ⊢
    exact (blockSegment_run ho hr hn).breakAt hb ih

end BreakAt

end LicenseAudit
