/-
  PromptEngine.Proofs.Report.Heading — the place that a report names, and the place of the error.

  Below its heading a report names a line and a column, and they can be read off its text
  (`Names.unique`).  It names the place of the character whose number is the start of the span, and
  nothing if the span reaches behind the end of the source (`names_draw_iff`).  Spans are counted in
  bytes.  The start of the error of a template is where a character begins
  (`Template.exists_fronts_of_error`), but the bytes in front are as many as the characters in front
  only if each of these takes one byte (`byteSize_eq_length_iff`).

  Main result: `draw_place`.  A report that names another place than that of the error is
  `draw_misplaced`.
-/
import PromptEngine.Proofs.Report.Lines
import PromptEngine.Proofs.Template.Spans
import PromptEngine.Proofs.Text.Numerals
import PromptEngine.Report.Drawing

namespace PromptEngine

/-! ## §1. Bytes and characters. -/

/-- A text has no more characters than bytes. -/
theorem length_le_byteSize (text : List Char) : text.length ≤ byteSize text := by
  induction text with
  | nil => exact Nat.le_refl _
  | cons c text ih =>
      have hpos := c.utf8Size_pos
      rw [List.length_cons, byteSize_cons]
      omega

theorem utf8Size_eq_one_iff {c : Char} : c.utf8Size = 1 ↔ c.toNat < 128 := by
  rw [Char.utf8Size_eq_one_iff, UInt32.le_iff_toNat_le]
  exact Nat.lt_succ_iff.symm

/-- **Bytes are as many as characters** just if all characters are of ASCII. -/
theorem byteSize_eq_length_iff {text : List Char} :
    byteSize text = text.length ↔ ∀ c ∈ text, c.toNat < 128 := by
  induction text with
  | nil => exact iff_of_true rfl (List.forall_mem_nil _)
  | cons c text ih =>
      have hpos := c.utf8Size_pos
      have hle := length_le_byteSize text
      rw [List.forall_mem_cons, ← ih, ← utf8Size_eq_one_iff, byteSize_cons, List.length_cons]
      omega

/-! ## §2. Where the error of a template lies. -/

/-- An error in the code of a region lies between two places of the interior. -/
theorem Region.isPlace_of_readInterior_error {source : List Char} {spans : List Span}
    (h : Regions source 0 spans) {region : Span} (hregion : region ∈ spans) {e : SyntaxError}
    (he : readInterior source region = .error e) :
    ∃ front inner rest, source = front ++ (Piece.region inner).raw ++ rest ∧
      e.span.Ends (IsPlace (byteSize front + 2) inner) := by
  have hregions : Regions ([] ++ source) (byteSize []) spans := h
  obtain ⟨front, inner, rest, hsource, rfl⟩ := exists_raw hregions region hregion
  rw [List.nil_append] at hsource
  refine ⟨front, inner, rest, hsource, ?_⟩
  have hinner : interior source ⟨byteSize front, byteSize (front ++ (Piece.region inner).raw)⟩
      = inner := by
    rw [hsource]
    exact slice_interior front inner rest
  obtain ⟨blanks, -, htrim⟩ := eq_append_trimBlanks inner
  unfold readInterior at he
  rw [hinner] at he
  refine (Code.errsIn_parse _ _ e he).1.imp fun pos hpos => ?_
  rw [String.toList_ofList] at hpos
  rw [htrim]
  exact (hpos.append_right blanks).append

/-- **The error of a template lies between two places in front of closing braces**, so that a
character begins at each of its ends. -/
theorem Template.exists_fronts_of_error {source : String} {e : SyntaxError}
    (h : Template.parse source = .error e) :
    e.span.Ends fun pos =>
      ∃ front c back, source.toList = front ++ c :: back ∧ pos = byteSize front := by
  obtain ⟨earlier, region, later, hregions, hblames⟩ := Template.blames_of_error h
  obtain ⟨front, inner, rest, hsource, hends⟩ :=
    Region.isPlace_of_readInterior_error hregions (by simp) hblames.error
  refine hends.imp fun pos hpos => ?_
  obtain ⟨before, behind, rfl, rfl⟩ := isPlace_iff.mp hpos
  have hclosed : behind ++ '}' :: '}' :: rest ≠ [] := by simp
  obtain ⟨c, back, hback⟩ := List.exists_cons_of_ne_nil hclosed
  refine ⟨front ++ '{' :: '{' :: before, c, back, ?_, ?_⟩
  · rw [hsource, ← hback]
    simp [Piece.raw]
  · have hbrace : '{'.utf8Size = 1 := rfl
    rw [byteSize_append, byteSize_cons, byteSize_cons, hbrace]
    omega

/-! ## §3. What a report names. -/

namespace Report

/-- Below the heading of a diagnostic the report names a place of the source called `name`. -/
def Names (d : Diagnostic) (name report : String) (place : Nat × Nat) : Prop :=
  ∃ width rest, report = heading d ++ placeRow width name place.1 place.2 ++ rest

/-- The row of a place: blanks, the opening of the frame, the name, the line and the column, which
are set off by colons, and the end of the frame. -/
theorem toList_placeRow (width : Nat) (name : String) (line column : Nat) :
    (placeRow width name line column).toList
      = List.replicate (width + 2) ' ' ++ ((paintEach .frame "╭─[").toList ++ (name.toList ++ ':' ::
        ((toString line).toList ++ ':' :: ((toString column).toList ++
          ((paint .frame "]").toList ++ ['\n']))))) := by
  simp [placeRow, repeated, String.toList_append]

/-- A mark tells where the part in front of it ends. -/
theorem eq_of_append_mark {mark : Char} {front front' rest rest' : List Char}
    (hfront : mark ∉ front) (hfront' : mark ∉ front')
    (h : front ++ mark :: rest = front' ++ mark :: rest') : front = front' ∧ rest = rest' := by
  have longer : ∀ {front front' rest rest' : List Char}, mark ∉ front' →
      (∃ more, front' = front ++ more ∧ mark :: rest = more ++ mark :: rest') →
      front = front' ∧ rest = rest' := by
    rintro front front' rest rest' hfront' ⟨more, rfl, hmore⟩
    cases more with
    | nil => exact ⟨(List.append_nil front).symm, List.tail_eq_of_cons_eq hmore⟩
    | cons c more =>
        obtain rfl := List.head_eq_of_cons_eq hmore
        exact absurd (by simp) hfront'
  rcases List.append_eq_append_iff.mp h with hlonger | hlonger
  · exact longer hfront' hlonger
  · exact (longer hfront hlonger).imp Eq.symm Eq.symm

/-- A number ends at a mark that is no digit. -/
theorem eq_of_toString_append_mark {first second : Nat} {mark : Char} {rest rest' : List Char}
    (hmark : mark.isDigit = false)
    (h : (toString first).toList ++ mark :: rest = (toString second).toList ++ mark :: rest') :
    first = second ∧ rest = rest' := by
  have hnot : ∀ n : Nat, mark ∉ (toString n).toList := fun n hmem =>
    Bool.false_ne_true (hmark.symm.trans (isDigit_of_mem_toString hmem))
  obtain ⟨hdigits, hrest⟩ := eq_of_append_mark (hnot _) (hnot _) h
  exact ⟨toString_injective (String.toList_inj.mp hdigits), hrest⟩

/-- What is painted begins with an escape character. -/
theorem exists_toList_paint (ink : Ink) (text : String) :
    ∃ rest, (paint ink text).toList = '\x1b' :: rest := by
  simp [paint, String.toList_append]

/-- **A report names one place at most.** -/
theorem Names.unique {d : Diagnostic} {name report : String} {place place' : Nat × Nat}
    (h : Names d name report place) (h' : Names d name report place') : place = place' := by
  obtain ⟨width, rest, rfl⟩ := h
  obtain ⟨width', rest', heq⟩ := h'
  have hrows := congrArg String.toList heq
  obtain ⟨opening, hopening⟩ : ∃ rest, (paintEach .frame "╭─[").toList = '\x1b' :: rest :=
    ⟨_, rfl⟩
  obtain ⟨closing, hclosing⟩ := exists_toList_paint .frame "]"
  simp only [String.toList_append, List.append_assoc, List.append_cancel_left_eq,
    toList_placeRow, hopening, hclosing, List.cons_append] at hrows
  -- The row begins with blanks, up to the first escape character.
  have hblanks : ∀ n, '\x1b' ∉ List.replicate n ' ' := by simp
  obtain ⟨-, hframed⟩ := eq_of_append_mark (hblanks _) (hblanks _) hrows
  have hnumbers := List.append_cancel_left (List.append_cancel_left hframed)
  obtain ⟨hline, hcolumns⟩ :=
    eq_of_toString_append_mark (by decide) (List.tail_eq_of_cons_eq hnumbers)
  obtain ⟨hcolumn, -⟩ := eq_of_toString_append_mark (by decide) hcolumns
  exact Prod.ext hline hcolumn

/-- The heading alone names no place. -/
theorem not_names_heading (d : Diagnostic) (name : String) (place : Nat × Nat) :
    ¬ Names d name (heading d) place := by
  rintro ⟨width, rest, h⟩
  have hlength := congrArg (fun text => text.toList.length) h
  simp only [String.toList_append, List.length_append, toList_placeRow,
    List.length_replicate] at hlength
  omega

/-- A report of a span within the source names the place where the span starts. -/
theorem names_draw {d : Diagnostic} {name source : String} {first last : SourceLine}
    (hfirst : lineAt? source.toList d.span.start = some first)
    (hlast : lineAt? source.toList (max (d.span.stop - 1) d.span.start) = some last) :
    Names d name (draw d name source) (first.number, d.span.start - first.offset + 1) := by
  unfold draw
  simp only [Label.last, hfirst, hlast]
  exact ⟨_, _, by simp only [String.append_assoc]; rfl⟩

/-- **The place that a report names** is that of the character with the number that the span starts
with.  It names none if the start or the last character of the span lies behind the end of the
source. -/
theorem names_draw_iff {d : Diagnostic} {name source : String} {place : Nat × Nat} :
    Names d name (draw d name source) place ↔
      place? source.toList d.span.start = some place ∧
        (lineAt? source.toList (max (d.span.stop - 1) d.span.start)).isSome := by
  unfold place?
  cases hfirst : lineAt? source.toList d.span.start with
  | none =>
      have hdraw : draw d name source = heading d := by simp [draw, hfirst]
      simpa [hdraw] using not_names_heading d name place
  | some first =>
      cases hlast : lineAt? source.toList (max (d.span.stop - 1) d.span.start) with
      | none =>
          have hdraw : draw d name source = heading d := by
            simp only [draw, Label.last, hfirst, hlast]
          simpa [hdraw] using not_names_heading d name place
      | some last =>
          have hnames : Names d name (draw d name source) _ := names_draw hfirst hlast
          simp only [Option.map_some, Option.some.injEq, Option.isSome_some, and_true]
          exact ⟨hnames.unique, fun h => h ▸ hnames⟩

/-- In a source that is not empty, a report names a place if the span starts at a character or at
the end of the source, and its last character is in the source or at its end. -/
theorem names_draw_iff_le {d : Diagnostic} {name source : String} (hsource : source.toList ≠ [])
    {place : Nat × Nat} :
    Names d name (draw d name source) place ↔
      place? source.toList d.span.start = some place ∧
        d.span.start ≤ source.length ∧ d.span.stop ≤ source.length + 1 := by
  rw [names_draw_iff, isSome_lineAt?_iff hsource, String.length_toList]
  exact and_congr_right' (by omega)

theorem exists_names_draw_iff {d : Diagnostic} {name source : String}
    (hsource : source.toList ≠ []) :
    (∃ place, Names d name (draw d name source) place) ↔
      d.span.start ≤ source.length ∧ d.span.stop ≤ source.length + 1 := by
  constructor
  · rintro ⟨place, h⟩
    exact ((names_draw_iff_le hsource).mp h).2
  · intro h
    have hline := (isSome_lineAt?_iff hsource).mpr (String.length_toList ▸ h.1)
    obtain ⟨first, hfirst⟩ := Option.isSome_iff_exists.mp hline
    exact ⟨_, (names_draw_iff_le hsource).mpr ⟨by rw [place?, hfirst]; rfl, h⟩⟩

/-! ## §4. The place of the error. -/

/-- Bytes taken for characters lead to a character or to one further back. -/
theorem eq_or_before_of_place? {front back : List Char} {c : Char}
    (h : OnlyLineFeeds (front ++ c :: back)) {place : Nat × Nat}
    (hplace : place? (front ++ c :: back) (byteSize front) = some place) :
    place = placeBehind front ∨ Before (placeBehind front) place := by
  rcases Nat.eq_or_lt_of_le (length_le_byteSize front) with heq | hlt
  · rw [← heq, place?_append_cons h] at hplace
    exact .inl (Option.some.inj hplace).symm
  · exact .inr (before_of_place? h hlt hplace)

/-- **Bytes taken for characters lead to the same character** just if all characters in front of it
are of ASCII. -/
theorem place?_byteSize_iff {front back : List Char} {c : Char}
    (h : OnlyLineFeeds (front ++ c :: back)) :
    place? (front ++ c :: back) (byteSize front) = some (placeBehind front) ↔
      ∀ c ∈ front, c.toNat < 128 := by
  rw [← byteSize_eq_length_iff]
  constructor
  · intro hplace
    refine le_antisymm (Nat.le_of_not_lt fun hlt => ?_) (length_le_byteSize front)
    exact (before_of_place? h hlt hplace).ne rfl
  · intro heq
    rw [heq]
    exact place?_append_cons h

/-- **The report of a template that cannot be read** names the place of the character at which the
error starts, just if all characters in front of it are of ASCII and the span, taken as numbers of
characters, ends in the source or one behind its end.  Any other place that is named is further
back: it is that of the character whose number is the byte at which the error starts.  The report of
a template of ASCII names the place of the error. -/
theorem draw_place (source name : String) (e : SyntaxError)
    (hlines : OnlyLineFeeds source.toList) (herror : Template.parse source = .error e) :
    ∃ front c back, source.toList = front ++ c :: back ∧ e.span.start = byteSize front ∧
      (Names e.diagnostic name (draw e.diagnostic name source) (placeBehind front) ↔
        (∀ c ∈ front, c.toNat < 128) ∧ e.span.stop ≤ source.length + 1) ∧
      (∀ place, Names e.diagnostic name (draw e.diagnostic name source) place →
        place? source.toList e.span.start = some place ∧
          (place = placeBehind front ∨ Before (placeBehind front) place)) ∧
      ((∃ place, Names e.diagnostic name (draw e.diagnostic name source) place) ↔
        e.span.start ≤ source.length ∧ e.span.stop ≤ source.length + 1) ∧
      ((∀ c ∈ source.toList, c.toNat < 128) →
        Names e.diagnostic name (draw e.diagnostic name source) (placeBehind front)) := by
  obtain ⟨⟨front, c, back, hsource, hstart⟩, front', c', back', hsource', hstop⟩ :=
    Template.exists_fronts_of_error herror
  have hlength : source.length = source.toList.length := String.length_toList.symm
  have hnonempty : source.toList ≠ [] := by simp [hsource]
  have hnames : ∀ place, Names e.diagnostic name (draw e.diagnostic name source) place ↔
      place? source.toList e.span.start = some place ∧
        e.span.start ≤ source.length ∧ e.span.stop ≤ source.length + 1 :=
    fun _ => names_draw_iff_le hnonempty
  have hplace : place? source.toList e.span.start = some (placeBehind front) ↔
      ∀ c ∈ front, c.toNat < 128 := by
    rw [hsource, hstart]
    exact place?_byteSize_iff (hsource ▸ hlines)
  have hwithin : (∀ c ∈ front, c.toNat < 128) → e.span.start ≤ source.length := by
    intro hfront
    rw [hlength, hsource, hstart, byteSize_eq_length_iff.mpr hfront, List.length_append]
    exact Nat.le_add_right _ _
  have hright : Names e.diagnostic name (draw e.diagnostic name source) (placeBehind front) ↔
      (∀ c ∈ front, c.toNat < 128) ∧ e.span.stop ≤ source.length + 1 := by
    rw [hnames, hplace]
    exact ⟨fun h => ⟨h.1, h.2.2⟩, fun h => ⟨h.1, hwithin h.1, h.2⟩⟩
  refine ⟨front, c, back, hsource, hstart, hright, ?_, exists_names_draw_iff hnonempty, ?_⟩
  · intro place h
    have hthere := ((hnames place).mp h).1
    refine ⟨hthere, ?_⟩
    rw [hsource] at hlines
    rw [hsource, hstart] at hthere
    exact eq_or_before_of_place? hlines hthere
  · intro hsmall
    refine hright.mpr ⟨fun c hc => hsmall c (by simp [hsource, hc]), ?_⟩
    -- The span ends in a front of the source.
    have hbytes := byteSize_eq_length_iff.mpr hsmall
    rw [← hlength, hsource', byteSize_append] at hbytes
    omega

/-- A template whose second line has a lone mark in front of a character of several bytes. -/
def markInSecondLine : String :=
  "one\n\x7b\x7b = \x7d\x7d é"

theorem draw_place_secondLine :
    ∃ e, Template.parse markInSecondLine = .error e ∧
      Names e.diagnostic "notes" (draw e.diagnostic "notes" markInSecondLine) (2, 4) := by
  have hlines : OnlyLineFeeds markInSecondLine.toList := by
    simp [OnlyLineFeeds, markInSecondLine, isLineEnd]
  have herror : Template.parse markInSecondLine
      = .error ⟨⟨7, 8⟩, .unexpected (some .equals) [], some "="⟩ := by
    cbv
  obtain ⟨front, c, back, hsource, hstart, hright, -, -, -⟩ :=
    draw_place markInSecondLine "notes" _ hlines herror
  have hfront : front = "one\n\x7b\x7b ".toList := by
    rw [← takeBytes_append front (c :: back), ← hsource, ← hstart]
    decide
  subst hfront
  exact ⟨_, herror, hright.mpr ⟨by simp, by decide⟩⟩

/-- A template with a character of two bytes in front of the region that cannot be read. -/
def markBehindUmlaut : String :=
  "ä\x7b\x7b = \x7d\x7d"

/-- The place that a report names need not be that of the error: the mark in the fifth column is
said to be in the sixth. -/
theorem draw_misplaced :
    ¬ ∀ (source name : String) (e : SyntaxError), OnlyLineFeeds source.toList →
      Template.parse source = .error e →
      ∀ front c back, source.toList = front ++ c :: back → e.span.start = byteSize front →
        Names e.diagnostic name (draw e.diagnostic name source) (placeBehind front) := by
  intro h
  have hlines : OnlyLineFeeds markBehindUmlaut.toList := by
    simp [OnlyLineFeeds, markBehindUmlaut, isLineEnd]
  have herror : Template.parse markBehindUmlaut
      = .error ⟨⟨5, 6⟩, .unexpected (some .equals) [], some "="⟩ := by
    cbv
  have hnames := h markBehindUmlaut "notes" _ hlines herror
    "ä\x7b\x7b ".toList '=' " \x7d\x7d".toList (by decide) (by decide)
  have hplace := (names_draw_iff.mp hnames).1
  revert hplace
  decide

end Report

end PromptEngine
