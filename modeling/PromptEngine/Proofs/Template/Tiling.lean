/-
  PromptEngine.Proofs.Template.Tiling — the blocks of a template cover it without gaps and overlaps.

  `Contiguous` says of a row of spans that each begins where the one before it ends.  What reading
  a row of pieces adds to the blocks is said for one piece (`fits_piece`) and carried over the row
  (`blocksFrom_tiles`).  Of the kinds of nodes a named argument is never made a block
  (`Code.kind_of_parse`).  Main result: the blocks of a template are contiguous from its first byte
  to its last, and each of them is what stands at its bytes (`Template.tiled_of_parse`).
-/
import Mathlib
import PromptEngine.Proofs.Template.Grammar

namespace PromptEngine

/-! ## §1. Rows of spans. -/

/-- A byte position between two characters of a text or at one of its ends. -/
def IsBoundary (text : List Char) (pos : Nat) : Prop :=
  ∃ front back, text = front ++ back ∧ pos = byteSize front

/-- The spans lie side by side from `start` to `stop`, and none of them is empty. -/
inductive Contiguous : (start : Nat) → List Span → (stop : Nat) → Prop
  | nil (pos : Nat) : Contiguous pos [] pos
  | cons {start stop : Nat} {span : Span} {spans : List Span} (starts : span.start = start)
      (nonempty : span.start < span.stop) (more : Contiguous span.stop spans stop) :
      Contiguous start (span :: spans) stop

namespace Contiguous

variable {start stop : Nat} {spans : List Span}

theorem head (h : Contiguous start spans stop) : ∀ span ∈ spans.head?, span.start = start := by
  cases h with
  | nil => simp
  | cons starts => simpa using starts

theorem getLast (h : Contiguous start spans stop) : ∀ span ∈ spans.getLast?, span.stop = stop := by
  induction h with
  | nil => simp
  | cons _ _ more ih =>
      cases more with
      | nil => simp
      | cons => simpa using ih

theorem isChain (h : Contiguous start spans stop) :
    spans.IsChain fun a b => b.start = a.stop := by
  induction h with
  | nil => exact .nil
  | cons _ _ more ih =>
      cases more with
      | nil => exact .singleton _
      | cons starts => exact .cons_cons starts ih

theorem lt_of_mem (h : Contiguous start spans stop) : ∀ span ∈ spans, span.start < span.stop := by
  induction h with
  | nil => simp
  | cons _ nonempty _ ih => exact List.forall_mem_cons.2 ⟨nonempty, ih⟩

end Contiguous

/-! ## §2. One block. -/

namespace Code

/-- The kind of block that content becomes. -/
def Content.kind : Content → NodeKind
  | .value _ => .value
  | .variable _ => .variable
  | .invocation _ _ => .invocation

/-- The rules on names and order make a block of the content's kind, if any. -/
theorem kind_of_check {content : Content} {block : Block} (h : check content = .ok block) :
    block.kind = content.kind := by
  obtain ⟨_, rfl, rfl⟩ | ⟨_, rfl, rfl, -⟩ | ⟨_, _, _, _, rfl, rfl, -⟩ := check_cases h
  · rfl
  · rfl
  · rfl

/-- Code is read neither as text nor as a named argument. -/
theorem kind_of_parse {code : String} {offset : Nat} {block : Block}
    (h : Code.parse code offset = .ok block) :
    block.kind ≠ .text ∧ block.kind ≠ .namedArgument := by
  obtain ⟨tokens, content, -, -, hcheck⟩ := parse_eq_ok_iff.1 h
  rw [kind_of_check hcheck]
  cases content <;> simp [Content.kind]

end Code

/-- A block is what stands at its bytes of the source: text is these bytes themselves, and
anything else is code between double braces. -/
structure Fits (source : List Char) (block : Spanned Block) : Prop where
  start : IsBoundary source block.span.start
  stop : IsBoundary source block.span.stop
  text : ∀ t, block.node = .text t → t = String.ofList (slice source block.span)
  code : block.node.kind ≠ .text →
    ∃ interior, slice source block.span = ['{', '{'] ++ interior ++ ['}', '}']
  kind : block.node.kind ≠ .namedArgument

/-- **The block of a piece is what stands at the bytes of the piece.** -/
theorem fits_piece {seen more : List Char} {piece : Piece} {block : Block}
    (h : piece.block (byteSize seen) = .ok block) :
    Fits (seen ++ piece.raw ++ more) ⟨block, ⟨byteSize seen, byteSize (seen ++ piece.raw)⟩⟩ := by
  have hslice : slice (seen ++ piece.raw ++ more) ⟨byteSize seen, byteSize (seen ++ piece.raw)⟩
      = piece.raw := by
    rw [byteSize_append, slice_append]
  refine ⟨⟨seen, piece.raw ++ more, by simp, rfl⟩, ⟨_, more, rfl, rfl⟩, ?_, ?_, ?_⟩
  · rintro t rfl
    rw [hslice]
    cases piece with
    | plain text =>
        cases h
        rfl
    | region interior =>
        -- Only a region with nothing but blanks in it is text.
        unfold Piece.block at h
        dsimp only at h
        split at h
        · cases h
          rfl
        · exact absurd rfl (Code.kind_of_parse h).1
  · intro hkind
    rw [hslice]
    cases piece with
    | plain text =>
        cases h
        exact absurd rfl hkind
    | region interior => exact ⟨interior, rfl⟩
  · cases piece with
    | plain text =>
        cases h
        simp [Block.kind]
    | region interior =>
        unfold Piece.block at h
        dsimp only at h
        split at h
        · cases h
          simp [Block.kind]
        · exact (Code.kind_of_parse h).2

/-! ## §3. Rows of blocks. -/

/-- Reading a row of pieces is reading the first one and then the others behind it. -/
theorem blocksFrom_cons_eq_ok_iff {pos : Nat} {piece : Piece} {pieces : List Piece}
    {blocks : List (Spanned Block)} :
    blocksFrom pos (piece :: pieces) = .ok blocks ↔
      ∃ block more, piece.block pos = .ok block ∧
        blocksFrom (pos + byteSize piece.raw) pieces = .ok more ∧
        blocks = ⟨block, ⟨pos, pos + byteSize piece.raw⟩⟩ :: more := by
  rw [blocksFrom]
  cases piece.block pos with
  | error e => simp [bind, Except.bind]
  | ok block =>
      cases blocksFrom (pos + byteSize piece.raw) pieces with
      | error e => simp [bind, Except.bind]
      | ok more => simp [bind, Except.bind, pure, Except.pure, eq_comm]

/-- **The blocks of a row of pieces tile its text.** -/
theorem blocksFrom_tiles {pieces : List Piece} {blocks : List (Spanned Block)} {seen : List Char}
    (hpieces : ∀ piece ∈ pieces, piece.raw ≠ [])
    (h : blocksFrom (byteSize seen) pieces = .ok blocks) :
    (∀ block ∈ blocks, Fits (seen ++ pieces.flatMap Piece.raw) block) ∧
      Contiguous (byteSize seen) (blocks.map (·.span))
        (byteSize (seen ++ pieces.flatMap Piece.raw)) ∧
      blocks.flatMap (fun block => slice (seen ++ pieces.flatMap Piece.raw) block.span)
        = pieces.flatMap Piece.raw := by
  induction pieces generalizing seen blocks with
  | nil =>
      cases h
      refine ⟨by simp, ?_, rfl⟩
      rw [List.flatMap_nil, List.append_nil]
      exact .nil _
  | cons piece pieces ih =>
      obtain ⟨hpiece, hpieces'⟩ := List.forall_mem_cons.1 hpieces
      obtain ⟨block, more, hblock, hmore, rfl⟩ := blocksFrom_cons_eq_ok_iff.1 h
      rw [← byteSize_append] at hmore ⊢
      obtain ⟨hfits, hcontiguous, hslices⟩ := ih hpieces' hmore
      have hsource : seen ++ (piece :: pieces).flatMap Piece.raw
          = seen ++ piece.raw ++ pieces.flatMap Piece.raw := by simp
      rw [hsource]
      -- The first block spans the first piece, and the others follow behind it.
      refine ⟨List.forall_mem_cons.2 ⟨fits_piece hblock, hfits⟩, ?_, ?_⟩
      · refine .cons rfl ?_ hcontiguous
        have := byteSize_pos hpiece
        show byteSize seen < byteSize (seen ++ piece.raw)
        rw [byteSize_append]
        omega
      · rw [List.flatMap_cons, hslices, byteSize_append, slice_append, List.flatMap_cons]

/-! ## §4. The whole template. -/

/-- The blocks of a template cover its source without gaps and overlaps. -/
structure Template.Tiled (template : Template) : Prop where
  starts : ∀ block ∈ template.blocks.head?, block.span.start = 0
  adjoins : template.blocks.IsChain fun a b => b.span.start = a.span.stop
  stops : ∀ block ∈ template.blocks.getLast?, block.span.stop = template.source.utf8ByteSize
  none_of_empty : template.source = "" → template.blocks = []
  nonempty : ∀ block ∈ template.blocks, block.span.start < block.span.stop
  boundaries : ∀ block ∈ template.blocks, IsBoundary template.source.toList block.span.start ∧
    IsBoundary template.source.toList block.span.stop
  text : ∀ block ∈ template.blocks, ∀ t, block.node = .text t → t = template.raw block
  code : ∀ block ∈ template.blocks, block.node.kind ≠ .text →
    ∃ interior, (template.raw block).toList = ['{', '{'] ++ interior ++ ['}', '}']
  kind : ∀ block ∈ template.blocks, block.node.kind ≠ .namedArgument
  join_raw : String.join (template.blocks.map template.raw) = template.source

/-- The scanner's pieces are not empty. -/
theorem Piece.raw_ne_nil_of_mem_cut {source : List Char} {piece : Piece}
    (h : piece ∈ Piece.cut source) : piece.raw ≠ [] := by
  cases piece with
  | plain text => exact plain_ne_nil_of_mem_cut h
  | region interior => simp [Piece.raw]

/-- **A template that is read is tiled by its blocks.**  They lie side by side from the first byte
of the source to the last; each begins and ends between characters and is not empty; text is what
stands at its bytes, and any other block stands there between double braces; none of them is a
named argument; and what they were read from, put together, is the source. -/
theorem Template.tiled_of_parse {source : String} {template : Template}
    (h : Template.parse source = .ok template) : template.source = source ∧ template.Tiled := by
  unfold Template.parse at h
  cases hblocks : blocksFrom 0 (Piece.cut source.toList) with
  | error e => simp [hblocks, bind, Except.bind] at h
  | ok blocks =>
      simp only [hblocks, bind, Except.bind, pure, Except.pure, Except.ok.injEq] at h
      subst h
      -- Nothing has been read before the first piece.
      change blocksFrom (byteSize []) (Piece.cut source.toList) = .ok blocks at hblocks
      obtain ⟨hfits, hcontiguous, hslices⟩ :=
        blocksFrom_tiles (fun _ => Piece.raw_ne_nil_of_mem_cut) hblocks
      rw [Piece.flatMap_raw_cut, List.nil_append] at hfits hcontiguous hslices
      refine ⟨rfl, ?_⟩
      rw [byteSize_toList] at hcontiguous
      exact {
        starts := by simpa using hcontiguous.head
        adjoins := (List.isChain_map _).1 hcontiguous.isChain
        stops := by simpa using hcontiguous.getLast
        none_of_empty := by
          rintro rfl
          cases hblocks
          rfl
        nonempty := fun block hmem => hcontiguous.lt_of_mem block.span (List.mem_map_of_mem hmem)
        boundaries := fun block hmem => ⟨(hfits block hmem).start, (hfits block hmem).stop⟩
        text := fun block hmem => (hfits block hmem).text
        code := fun block hmem hkind => by
          rw [Template.raw, String.toList_ofList]
          exact (hfits block hmem).code hkind
        kind := fun block hmem => (hfits block hmem).kind
        join_raw := by
          apply String.toList_inj.1
          rw [String.toList_join, List.flatMap_map]
          simpa [Template.raw] using hslices }

/-- Characters of several bytes, braces in a literal, a region with nothing but blanks in it, and
one that is never closed. -/
def umlautSource : String :=
  "hé \x7b\x7b 'w\x7d\x7dö' \x7d\x7d\x7b\x7b \x7d\x7dü\x7b\x7b$x"

theorem tiled_of_parse_umlauts :
    ∃ template, Template.parse umlautSource = .ok template ∧ template.blocks.length = 4 ∧
      template.source = umlautSource ∧ template.Tiled := by
  have h : Template.parse umlautSource
      = .ok ⟨umlautSource, [⟨.text "hé ", ⟨0, 4⟩⟩, ⟨.value ⟨"w\x7d\x7dö", .single⟩, ⟨4, 17⟩⟩,
          ⟨.text "\x7b\x7b \x7d\x7d", ⟨17, 22⟩⟩, ⟨.text "ü\x7b\x7b$x", ⟨22, 28⟩⟩]⟩ := by
    cbv
  exact ⟨_, h, rfl, Template.tiled_of_parse h⟩

end PromptEngine
