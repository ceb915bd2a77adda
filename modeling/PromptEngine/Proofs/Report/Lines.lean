/-
  PromptEngine.Proofs.Report.Lines — the line and the column of a character, counted as a reader
  counts them.

  A reader goes through the characters in front: a line feed leads to the next line, any other
  character to the next column (`placeBehind`).  Reports look up the line in the table of all lines
  instead.  In a source whose only line ends are line feeds both give the same for every character
  (`place?_append_cons`), and the end of the source lies behind its last character
  (`place?_concat`).  Places further back are further on (`before_placeBehind`), and so are the
  places of larger offsets (`before_of_place?`).
-/
import Mathlib.Data.List.Induction
import PromptEngine.Report.Source

namespace PromptEngine.Report

/-! ## §1. Counting. -/

/-- The place that follows a character. -/
def advance (place : Nat × Nat) (c : Char) : Nat × Nat :=
  if c = '\n' then (place.1 + 1, 1) else (place.1, place.2 + 1)

/-- The line and the column, both from 1, of what follows a front of a text. -/
def placeBehind (front : List Char) : Nat × Nat :=
  front.foldl advance (1, 1)

/-- A place is in an earlier line than another one, or further left in its line. -/
def Before (place later : Nat × Nat) : Prop :=
  place.1 < later.1 ∨ place.1 = later.1 ∧ place.2 < later.2

theorem Before.trans {first second third : Nat × Nat} (h : Before first second)
    (h' : Before second third) : Before first third := by
  unfold Before at h h' ⊢
  omega

theorem Before.ne {place later : Nat × Nat} (h : Before place later) : later ≠ place := by
  rintro rfl
  unfold Before at h
  omega

theorem before_advance (place : Nat × Nat) (c : Char) : Before place (advance place c) := by
  unfold advance
  split
  · exact .inl (Nat.lt_succ_self _)
  · exact .inr ⟨rfl, Nat.lt_succ_self _⟩

theorem placeBehind_concat (front : List Char) (c : Char) :
    placeBehind (front ++ [c]) = advance (placeBehind front) c := by
  rw [placeBehind, List.foldl_append]
  rfl

/-- A place further back is further on. -/
theorem before_placeBehind (front : List Char) {more : List Char} (h : more ≠ []) :
    Before (placeBehind front) (placeBehind (front ++ more)) := by
  induction more using List.reverseRecOn with
  | nil => exact absurd rfl h
  | append_singleton more c ih =>
      rw [← List.append_assoc, placeBehind_concat]
      have hstep := before_advance (placeBehind (front ++ more)) c
      by_cases hmore : more = []
      · rw [hmore, List.append_nil] at hstep ⊢
        exact hstep
      · exact (ih hmore).trans hstep

/-! ## §2. The table of lines. -/

/-- No line is empty. -/
theorem ne_nil_of_mem_splitLines (source : List Char) : ∀ line ∈ splitLines source, line ≠ [] := by
  fun_induction splitLines source <;> simp_all

/-- Lines are numbered and placed by what stands before them. -/
theorem numberLines_append (number offset : Nat) (lines more : List (List Char)) :
    numberLines number offset (lines ++ more)
      = numberLines number offset lines
        ++ numberLines (number + lines.length) (offset + lines.flatten.length) more := by
  induction lines generalizing number offset with
  | nil => rfl
  | cons line lines ih =>
      rw [List.cons_append, numberLines, numberLines, ih, List.cons_append, List.length_cons,
        List.flatten_cons, List.length_append]
      simp only [Nat.add_assoc, Nat.add_comm 1]

theorem offset_le_of_mem_numberLines {number offset : Nat} {lines : List (List Char)} :
    ∀ line ∈ numberLines number offset lines, offset ≤ line.offset := by
  induction lines generalizing number offset with
  | nil => exact fun line h => absurd h List.not_mem_nil
  | cons text lines ih =>
      intro line h
      obtain rfl | h := List.mem_cons.mp h
      · exact Nat.le_refl _
      · exact Nat.le_trans (Nat.le_add_right _ _) (ih line h)

/-- **The line of an offset** is the one that the offset lies in, or the last one at the end of the
source. -/
theorem lineAt?_of_splitLines {source line : List Char} {before after : List (List Char)}
    (hsplit : splitLines source = before ++ line :: after) {offset : Nat}
    (hstart : before.flatten.length ≤ offset)
    (hstop : offset < before.flatten.length + line.length ∨
      after = [] ∧ offset = before.flatten.length + line.length) :
    lineAt? source offset = some ⟨before.length + 1, before.flatten.length, line⟩ := by
  have hlength : source.length = before.flatten.length + (line.length + after.flatten.length) := by
    rw [← flatten_splitLines source, hsplit, List.flatten_append, List.flatten_cons,
      List.length_append, List.length_append]
  have hlines : sourceLines source
      = numberLines 1 0 before ++ ⟨before.length + 1, before.flatten.length, line⟩
        :: numberLines (before.length + 1 + 1) (before.flatten.length + line.length) after := by
    rw [sourceLines, hsplit, numberLines_append, numberLines, Nat.add_comm 1, Nat.zero_add]
  -- The lines that follow begin behind the offset.
  have hafter : (numberLines (before.length + 1 + 1) (before.flatten.length + line.length)
      after).filter (·.offset ≤ offset) = [] := by
    obtain hin | ⟨rfl, -⟩ := hstop
    · rw [List.filter_eq_nil_iff]
      intro other hother hle
      have hge := offset_le_of_mem_numberLines other hother
      have hle' : other.offset ≤ offset := by simpa using hle
      omega
    · rfl
  have hreached : offset ≤ source.length := by
    obtain hin | ⟨rfl, heq⟩ := hstop
    · omega
    · rw [List.flatten_nil, List.length_nil] at hlength
      omega
  rw [lineAt?, if_pos hreached, hlines, List.filter_append, List.filter_cons,
    if_pos (decide_eq_true hstart), hafter, List.getLast?_append, List.getLast?_singleton]
  rfl

/-! ## §3. Both ways give the same. -/

/-- The only line ends of a source are line feeds. -/
def OnlyLineFeeds (source : List Char) : Prop :=
  ∀ c ∈ source, isLineEnd c = true → c = '\n'

theorem splitLines_lineFeed (rest : List Char) :
    splitLines ('\n' :: rest) = ['\n'] :: splitLines rest := by
  simp [splitLines, isLineEnd]

/-- A character that ends no line is put before the line that follows. -/
theorem splitLines_cons {c : Char} {rest line : List Char} {lines : List (List Char)}
    (hc : isLineEnd c = false) (hrest : splitLines rest = line :: lines) :
    splitLines (c :: rest) = (c :: line) :: lines := by
  have hreturn : c ≠ '\r' := by
    rintro rfl
    exact absurd hc (by decide)
  rw [splitLines, hc, hrest]
  · rfl
  · intro tail heq
    exact absurd heq hreturn

theorem exists_splitLines_cons (c : Char) (rest : List Char)
    (h : isLineEnd c = true → c = '\n') :
    ∃ line lines, splitLines (c :: rest) = (c :: line) :: lines := by
  cases hc : isLineEnd c with
  | true =>
      obtain rfl := h hc
      exact ⟨[], _, splitLines_lineFeed rest⟩
  | false =>
      cases hrest : splitLines rest with
      | nil =>
          have hempty : rest = [] := by
            rw [← flatten_splitLines rest, hrest]
            rfl
          subst hempty
          exact ⟨[], [], by simp [splitLines, hc]⟩
      | cons line lines => exact ⟨line, lines, splitLines_cons hc hrest⟩

/-- In a text that is entered at one place, the character at an offset stands at another.  In the
first line columns go on from where it is entered, in other lines they are counted from 1. -/
def StandsAt (text : List Char) (offset : Nat) (entered place : Nat × Nat) : Prop :=
  ∃ before line after, splitLines text = before ++ line :: after ∧
    before.flatten.length ≤ offset ∧ offset < before.flatten.length + line.length ∧
    place = (entered.1 + before.length,
      offset - before.flatten.length + if before = [] then entered.2 else 1)

namespace StandsAt

variable {rest : List Char} {c : Char} {offset : Nat} {entered place : Nat × Nat}

theorem first (h : isLineEnd c = true → c = '\n') : StandsAt (c :: rest) 0 entered entered := by
  obtain ⟨line, lines, hsplit⟩ := exists_splitLines_cons c rest h
  exact ⟨[], c :: line, lines, hsplit, Nat.le_refl _, by simp, by simp⟩

/-- A line feed is a line of its own, and the next one is entered at its start. -/
theorem lineFeed (h : StandsAt rest offset (entered.1 + 1, 1) place) :
    StandsAt ('\n' :: rest) (offset + 1) entered place := by
  obtain ⟨before, line, after, hsplit, hstart, hstop, rfl⟩ := h
  have hlength : (['\n'] :: before).flatten.length = before.flatten.length + 1 := by
    rw [List.flatten_cons, List.length_append, List.length_singleton, Nat.add_comm]
  refine ⟨['\n'] :: before, line, after, ?_, by omega, by omega, ?_⟩
  · rw [splitLines_lineFeed, hsplit, List.cons_append]
  · rw [hlength, ite_self, if_neg (List.cons_ne_nil _ _), List.length_cons, Nat.add_sub_add_right,
      Nat.add_assoc, Nat.add_comm 1]

/-- A character that ends no line stands before the first of the lines that follow. -/
theorem cons (hc : isLineEnd c = false)
    (h : StandsAt rest offset (entered.1, entered.2 + 1) place) :
    StandsAt (c :: rest) (offset + 1) entered place := by
  obtain ⟨before, line, after, hsplit, hstart, hstop, rfl⟩ := h
  cases before with
  | nil =>
      refine ⟨[], c :: line, after, splitLines_cons hc hsplit, Nat.zero_le _, ?_, ?_⟩
      · rw [List.length_cons]
        omega
      · rw [if_pos rfl, if_pos rfl]
        exact Prod.ext rfl (by simp only; omega)
  | cons text before =>
      have hlength :
          ((c :: text) :: before).flatten.length = (text :: before).flatten.length + 1 := by
        rw [List.flatten_cons, List.flatten_cons, List.cons_append, List.length_cons]
      refine ⟨(c :: text) :: before, line, after, splitLines_cons hc hsplit, by omega, by omega, ?_⟩
      rw [hlength, if_neg (List.cons_ne_nil _ _), if_neg (List.cons_ne_nil _ _),
        Nat.add_sub_add_right, List.length_cons, List.length_cons]

end StandsAt

/-- **A character stands where the count through the characters in front leads.** -/
theorem standsAt_append_cons {front back : List Char} {c : Char}
    (h : OnlyLineFeeds (front ++ c :: back)) :
    ∀ entered,
      StandsAt (front ++ c :: back) front.length entered (front.foldl advance entered) := by
  induction front with
  | nil => exact fun entered => .first (h c List.mem_cons_self)
  | cons d front ih =>
      intro entered
      have hrest : OnlyLineFeeds (front ++ c :: back) := fun x hx => h x (List.mem_cons_of_mem d hx)
      by_cases hd : d = '\n'
      · subst hd
        exact .lineFeed (ih hrest (entered.1 + 1, 1))
      · have hend : isLineEnd d = false := Bool.eq_false_iff.mpr fun hd' =>
          hd (h d List.mem_cons_self hd')
        have hstep : advance entered d = (entered.1, entered.2 + 1) := if_neg hd
        rw [List.foldl_cons, hstep]
        exact .cons hend (ih hrest (entered.1, entered.2 + 1))

/-- **The place of a character** is that which a reader counts. -/
theorem place?_append_cons {front back : List Char} {c : Char}
    (h : OnlyLineFeeds (front ++ c :: back)) :
    place? (front ++ c :: back) front.length = some (placeBehind front) := by
  obtain ⟨before, line, after, hsplit, hstart, hstop, hplace⟩ := standsAt_append_cons h (1, 1)
  rw [place?, lineAt?_of_splitLines hsplit hstart (.inl hstop), placeBehind, hplace, ite_self,
    Nat.add_comm 1]
  rfl

/-- The end of a source lies one column behind its last character. -/
theorem place?_concat {front : List Char} {c : Char} (h : OnlyLineFeeds (front ++ [c])) :
    place? (front ++ [c]) (front ++ [c]).length
      = some ((placeBehind front).1, (placeBehind front).2 + 1) := by
  obtain ⟨before, line, after, hsplit, hstart, hstop, hplace⟩ := standsAt_append_cons h (1, 1)
  have hlength := congrArg List.length (flatten_splitLines (front ++ [c]))
  rw [hsplit, List.flatten_append, List.flatten_cons, List.length_append, List.length_append,
    List.length_append, List.length_singleton] at hlength
  -- The line of the last character is the last one, because no line is empty.
  have hafter : after = [] := by
    cases after with
    | nil => rfl
    | cons other after =>
        have hother : 0 < other.length := List.length_pos_iff.mpr
          (ne_nil_of_mem_splitLines (front ++ [c]) other (by simp [hsplit]))
        rw [List.flatten_cons, List.length_append] at hlength
        omega
  subst hafter
  rw [List.flatten_nil, List.length_nil] at hlength
  have hend : (front ++ [c]).length = before.flatten.length + line.length := by
    rw [List.length_append, List.length_singleton]
    omega
  rw [place?, lineAt?_of_splitLines hsplit (by omega) (.inr ⟨rfl, hend⟩), placeBehind, hplace,
    ite_self, Option.map_some, hend]
  exact congrArg some (Prod.ext (Nat.add_comm _ _) (by simp only; omega))

/-- Every offset up to the end of a source has a line, unless the source is empty. -/
theorem isSome_lineAt?_iff {source : List Char} (h : source ≠ []) {offset : Nat} :
    (lineAt? source offset).isSome ↔ offset ≤ source.length := by
  have hlines : splitLines source ≠ [] := by
    intro hnone
    refine h ?_
    rw [← flatten_splitLines source, hnone]
    rfl
  obtain ⟨line, lines, hsplit⟩ := List.exists_cons_of_ne_nil hlines
  unfold lineAt?
  split
  · next hle =>
    rw [sourceLines, hsplit, numberLines, List.filter_cons, if_pos (decide_eq_true (Nat.zero_le _)),
      List.getLast?_cons]
    exact iff_of_true rfl hle
  · next hgt => exact iff_of_false Bool.false_ne_true hgt

/-- **A larger offset has a later place**, if it has one. -/
theorem before_of_place? {front back : List Char} {c : Char}
    (h : OnlyLineFeeds (front ++ c :: back)) {offset : Nat} (hoffset : front.length < offset)
    {place : Nat × Nat} (hplace : place? (front ++ c :: back) offset = some place) :
    Before (placeBehind front) place := by
  have hle : offset ≤ (front ++ c :: back).length := by
    refine (isSome_lineAt?_iff (by simp)).mp ?_
    obtain ⟨line, hline, -⟩ := Option.map_eq_some_iff.mp hplace
    rw [hline]
    rfl
  obtain ⟨more, rest, rfl, rfl⟩ :
      ∃ more rest, back = more ++ rest ∧ offset = (front ++ c :: more).length := by
    refine ⟨back.take (offset - front.length - 1), back.drop (offset - front.length - 1),
      (List.take_append_drop _ _).symm, ?_⟩
    simp only [List.length_append, List.length_cons, List.length_take] at hle ⊢
    omega
  cases rest with
  | cons d rest =>
      have hsource : front ++ c :: (more ++ d :: rest) = (front ++ c :: more) ++ d :: rest := by
        simp
      rw [hsource] at h hplace
      obtain rfl := Option.some.inj ((place?_append_cons h).symm.trans hplace)
      exact before_placeBehind front (List.cons_ne_nil c more)
  | nil =>
      -- The offset is the end of the source.
      obtain ⟨init, last, hinit⟩ := (List.eq_nil_or_concat (c :: more)).resolve_left
        (List.cons_ne_nil c more)
      have hsource : front ++ c :: more = (front ++ init) ++ [last] := by simp [hinit]
      rw [List.append_nil, hsource] at h hplace
      obtain rfl := Option.some.inj ((place?_concat h).symm.trans hplace)
      have hlast : Before (placeBehind (front ++ init))
          ((placeBehind (front ++ init)).1, (placeBehind (front ++ init)).2 + 1) :=
        .inr ⟨rfl, Nat.lt_succ_self _⟩
      by_cases hnil : init = []
      · rw [hnil, List.append_nil] at hlast ⊢
        exact hlast
      · exact (before_placeBehind front hnil).trans hlast

end PromptEngine.Report
