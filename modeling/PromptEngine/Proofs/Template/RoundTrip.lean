/-
  PromptEngine.Proofs.Template.RoundTrip — a template that is written is read back.

  The scanner cuts one piece for each block (`Proofs.Template.Cutting`), the lexer reads the code
  of a piece as the block's tokens (`Proofs.Template.Lexing`), and the grammar reads the tokens as
  the block (`Proofs.Template.Grammar`).  Main result: `parse_writeAll`.
-/
import PromptEngine.Proofs.Template.Cutting
import PromptEngine.Proofs.Template.Grammar

namespace PromptEngine

namespace BareBlock

/-- A piece that was written for a block is read as this block, wherever it stands. -/
theorem block_piece {block : BareBlock} (h : block.WellFormed) (pos : Nat) :
    ∃ read, block.piece.block pos = .ok read ∧ read.bare = block := by
  by_cases htext : block.IsText
  · cases block with
    | text t => exact ⟨.text t, by simp [piece, Piece.block], rfl⟩
    | value _ => exact absurd htext id
    | «variable» _ => exact absurd htext id
    | argument _ _ => exact absurd htext id
    | call _ => exact absurd htext id
  · -- Tight code is not empty and loses nothing by trimming, so it is the code that is parsed.
    have htight := block.tight_code h htext
    obtain ⟨c, rest, hhead, -⟩ := htight.head
    rw [(piece_of_not_isText htext).1, Piece.block, htight.trimBlanks_eq, if_neg (by simp [hhead])]
    obtain ⟨tokens, hlex, htokens⟩ := lex_of_starts (block.starts_code h)
      (pos + 2 + byteSize (block.code.takeWhile isBlank))
    refine Code.parse_of_tokens h htext ?_ htokens
    rwa [String.toList_ofList]

/-- The pieces of well-formed blocks are read as these blocks, each at its own bytes. -/
theorem blocksFrom_pieces :
    ∀ (blocks : List BareBlock) (pos : Nat), (∀ block ∈ blocks, block.WellFormed) →
      ∃ read, blocksFrom pos (blocks.map piece) = .ok read ∧
        read.map (fun b => (⟨b.node.bare, b.span⟩ : Spanned BareBlock)) = placed pos blocks
  | [], _, _ => ⟨[], rfl, rfl⟩
  | block :: blocks, pos, h => by
      obtain ⟨first, hfirst, hbare⟩ := block_piece (h block List.mem_cons_self) pos
      obtain ⟨more, hmore, hplaced⟩ := blocksFrom_pieces blocks (pos + byteSize block.written)
        fun b hb => h b (List.mem_cons_of_mem _ hb)
      refine ⟨⟨first, ⟨pos, pos + byteSize block.written⟩⟩ :: more, ?_, ?_⟩
      · rw [List.map_cons, blocksFrom, hfirst, raw_piece]
        simp only [bind, Except.bind, hmore]
        rfl
      · rw [List.map_cons, hbare, hplaced]
        rfl

end BareBlock

/-- **A template that is written is read back.**  For every row of well-formed blocks without two
texts side by side, reading the text that is written for it succeeds and gives exactly these
blocks in their order, literals with their contents, each at the bytes it takes in the text. -/
theorem Template.parse_writeAll (blocks : List BareBlock) (h : BareBlock.Writable blocks) :
    ∃ template, Template.parse (BareBlock.writeAll blocks) = .ok template ∧
      template.source = BareBlock.writeAll blocks ∧
      template.blocks.map (fun b => (⟨b.node.bare, b.span⟩ : Spanned BareBlock))
        = BareBlock.placed 0 blocks := by
  obtain ⟨read, hread, hplaced⟩ := BareBlock.blocksFrom_pieces blocks 0 h.wellFormed
  refine ⟨⟨BareBlock.writeAll blocks, read⟩, ?_, rfl, hplaced⟩
  rw [Template.parse, BareBlock.cut_writeAll h, hread]
  rfl

/-- Text that ends with a brace, a literal that holds braces, quotes and a backslash before its
end, and a call that follows it without text in between. -/
def trickyBlocks : List BareBlock :=
  [.text "\x7d\x7d a\x7b", .value ⟨"\x7d\x7d '\\\x7b\x7b\"\n\\", .single⟩,
    .call
      { function := ⟨some "text", "join"⟩
        positional := [.variable "x", .value ⟨"", .double⟩]
        named := [("by", .value ⟨"\\\"", .double⟩), ("to", .variable "y_1")] }]

theorem parse_writeAll_trickyBlocks :
    BareBlock.Writable trickyBlocks ∧
      ∃ template, Template.parse (BareBlock.writeAll trickyBlocks) = .ok template ∧
        template.source = BareBlock.writeAll trickyBlocks ∧
        template.blocks.map (fun b => (⟨b.node.bare, b.span⟩ : Spanned BareBlock))
          = BareBlock.placed 0 trickyBlocks := by
  have h : BareBlock.Writable trickyBlocks := by
    refine ⟨?_, ?_⟩
    · simp only [trickyBlocks, List.forall_mem_cons]
      refine ⟨⟨by decide, by decide⟩, trivial, ⟨?_, by decide, ?_, ?_, by decide⟩, nofun⟩
      · rintro collection ⟨⟩
        decide
      · simp only [List.forall_mem_cons]
        exact ⟨(show isIdentifier "x" = true by decide), trivial, nofun⟩
      · simp only [List.forall_mem_cons]
        exact ⟨⟨by decide, trivial⟩, ⟨by decide, show isIdentifier "y_1" = true by decide⟩, nofun⟩
    · simp [trickyBlocks, BareBlock.IsText]
  exact ⟨h, Template.parse_writeAll trickyBlocks h⟩

end PromptEngine
