/-
  PromptEngine.Proofs.Template.Agreement — scanner and lexer agree on where literals end.

  The scanner that cuts a template looks for closing braces outside literals; the lexer then reads
  the literals of each region on its own, and neither knows of the other.  One half of their
  agreement is that no region ends inside a literal.  The other half is shown here: the scanner
  passes over what the lexer accepts (`Lexed.passes`), and so code that can be read alone is read
  as one region between braces (`Template.parse_braced`).  Both together are
  `Template.scanner_lexer_agree`.
-/
import Mathlib
import PromptEngine.Proofs.Template.Balance
import PromptEngine.Proofs.Template.Shift

namespace PromptEngine

open Piece Region

/-! ## §1. The scanner passes over what the lexer reads. -/

/-- The scanner passes over a blank. -/
theorem passes_of_isBlank {c : Char} (h : isBlank c = true) : Passes [c] := by
  have hbrace : c ≠ '{' ∧ c ≠ '}' := by
    constructor <;> rintro rfl <;> revert h <;> decide
  exact Passes.char hbrace.1 hbrace.2 (isQuote_of_isBlank h)

theorem passes_of_blanks {blanks : List Char} (h : ∀ c ∈ blanks, isBlank c = true) :
    Passes blanks := by
  induction blanks with
  | nil => exact Passes.nil
  | cons c blanks ih =>
      obtain ⟨hc, hblanks⟩ := List.forall_mem_cons.1 h
      exact (passes_of_isBlank hc).cons (ih hblanks)

/-- The scanner passes over a token. -/
theorem Token.Spelt.passes {token : Token} {front : List Char} (h : token.Spelt front) :
    Passes front := by
  cases h with
  | dot => exact Passes.char (by decide) (by decide) rfl
  | equals => exact Passes.char (by decide) (by decide) rfl
  | «variable» hname => exact (Passes.char (by decide) (by decide) rfl).cons (Passes.name hname)
  | word hc hname => exact Passes.name (by rw [List.all_cons, hc, hname]; rfl)
  | literal hbody => exact fun before interior rest => cutFrom_literalStep hbody before interior

/-- **The scanner passes over a text that spells tokens.** -/
theorem Lexed.passes {pos : Nat} {last : Option (Spanned Token)} {text : List Char}
    {tokens : List (Spanned Token)} (h : Lexed pos last text tokens) : Passes text := by
  induction h with
  | nil => exact Passes.nil
  | blank hblank _ ih => exact (passes_of_isBlank hblank).cons ih
  | token spelt _ _ _ ih => exact spelt.passes.append ih

/-- A text that spells tokens does not begin with a brace. -/
theorem Lexed.head?_ne {pos : Nat} {last : Option (Spanned Token)} {text : List Char}
    {tokens : List (Spanned Token)} (h : Lexed pos last text tokens) : text.head? ≠ some '{' := by
  cases h with
  | nil => simp
  | blank hblank _ =>
      rintro ⟨⟩
      cases hblank
  | token spelt _ _ _ =>
      cases spelt with
      | dot => simp
      | equals => simp
      | «variable» _ => simp
      | word hc _ =>
          rintro ⟨⟩
          revert hc
          decide
      | @literal quote _ _ => cases quote <;> simp [Quote.char]

/-! ## §2. Code between braces. -/

namespace Code

/-- **Code is read as the same block without the blanks at its ends.** -/
theorem parse_trimBlanks {code : String} {offset : Nat} {block : Block}
    (h : Code.parse code offset = .ok block) :
    Code.parse (String.ofList (trimBlanks code.toList))
      (offset + byteSize (code.toList.takeWhile isBlank)) = .ok block := by
  obtain ⟨tokens, content, hlex, hread, hcheck⟩ := parse_eq_ok_iff.1 h
  obtain ⟨blanks, hblanks, hcode⟩ := eq_append_trimBlanks code.toList
  refine parse_eq_ok_iff.2 ⟨tokens, content, ?_, read_behind _ _ tokens content hread, hcheck⟩
  have hleading : ∀ c ∈ code.toList.takeWhile isBlank, isBlank c = true := fun c hc =>
    List.mem_takeWhile_imp hc
  -- The blanks in front move the text, and those behind it add no tokens.
  rw [lex, hcode, lexFrom_blanks_append hleading, lexFrom_eq_ok_iff] at hlex
  rw [lex, String.toList_ofList, lexFrom_eq_ok_iff]
  exact hlex.of_append_blanks hblanks rfl

/-- Nothing but blanks is no code. -/
theorem trimBlanks_ne_nil_of_parse {code : String} {offset : Nat} {block : Block}
    (h : Code.parse code offset = .ok block) : trimBlanks code.toList ≠ [] := by
  intro hnil
  have hempty := parse_trimBlanks h
  rw [hnil] at hempty
  obtain ⟨tokens, content, hlex, hread, -⟩ := parse_eq_ok_iff.1 hempty
  rw [String.toList_ofList, lex, lexFrom] at hlex
  cases hlex
  cases hread

/-- Code between double braces, with something before it and something behind it. -/
def braced (left code right : String) : String :=
  "\x7b\x7b" ++ left ++ code ++ right ++ "\x7d\x7d"

theorem toList_braced (left code right : String) :
    (braced left code right).toList
      = '{' :: '{' :: (left.toList ++ code.toList ++ right.toList ++ ['}', '}']) := by
  simp [braced]

/-- Code that is read alone is cut off as one region. -/
theorem cut_braced {left code right : String} {block : Block}
    (hleft : ∀ c ∈ left.toList, isBlank c = true) (hright : ∀ c ∈ right.toList, isBlank c = true)
    (h : Code.parse code = .ok block) :
    cut (braced left code right).toList
      = [.region (left.toList ++ code.toList ++ right.toList)] := by
  obtain ⟨tokens, content, hlex, -, -⟩ := parse_eq_ok_iff.1 h
  have hlexed : Lexed 0 none code.toList tokens := lexFrom_eq_ok_iff.1 hlex
  have hpasses : Passes (left.toList ++ code.toList ++ right.toList) :=
    ((passes_of_blanks hleft).append hlexed.passes).append (passes_of_blanks hright)
  have hhead : (left.toList ++ code.toList ++ right.toList ++ ['}', '}']).head? ≠ some '{' := by
    -- A third brace would have to come from the blanks or from the code.
    cases htext : left.toList with
    | cons c text =>
        rintro ⟨⟩
        exact absurd (hleft '{' (by simp [htext])) (by decide)
    | nil =>
        cases hcode : code.toList with
        | nil => exact absurd (by rw [hcode]; rfl) (trimBlanks_ne_nil_of_parse h)
        | cons c text => simpa [hcode] using hlexed.head?_ne
  rw [toList_braced, cut, cutFrom_open [] hhead, hpasses [] [] _ (by simp), cutFrom_close]
  simp [plain?, cutFrom, held]

end Code

/-- **Code that is read alone is read between braces as the same block**, whatever blanks stand
around it. -/
theorem Template.parse_braced {left code right : String} {block : Block}
    (hleft : ∀ c ∈ left.toList, isBlank c = true) (hright : ∀ c ∈ right.toList, isBlank c = true)
    (h : Code.parse code = .ok block) :
    Template.parse (Code.braced left code right)
      = .ok ⟨Code.braced left code right,
          [⟨block.shift (2 + left.utf8ByteSize),
            ⟨0, (Code.braced left code right).utf8ByteSize⟩⟩]⟩ := by
  have hcode := Code.trimBlanks_ne_nil_of_parse h
  have hblock : (Piece.region (left.toList ++ code.toList ++ right.toList)).block 0
      = .ok (block.shift (2 + left.utf8ByteSize)) := by
    unfold Piece.block
    dsimp only
    rw [trimBlanks_append hleft hright, if_neg (by simpa using hcode),
      takeWhile_append_blanks hleft hcode]
    -- The trimmed code stands behind its own blanks, which stand behind the braces and `left`.
    have hshift := Code.parse_shift (2 + left.utf8ByteSize)
      (String.ofList (trimBlanks code.toList)) (0 + byteSize (code.toList.takeWhile isBlank))
    rw [Code.parse_trimBlanks h] at hshift
    have hoffset : 0 + 2 + byteSize (left.toList ++ code.toList.takeWhile isBlank)
        = 0 + byteSize (code.toList.takeWhile isBlank) + (2 + left.utf8ByteSize) := by
      rw [byteSize_append, byteSize_toList]
      omega
    rw [hoffset, hshift]
    rfl
  have hsize : byteSize (Piece.region (left.toList ++ code.toList ++ right.toList)).raw
      = (Code.braced left code right).utf8ByteSize := by
    rw [← byteSize_toList, Code.toList_braced]
    rfl
  rw [Template.parse, Code.cut_braced hleft hright h, blocksFrom, hblock, hsize, Nat.zero_add]
  rfl

/-! ## §3. Agreement. -/

/-- **Scanner and lexer agree on where every literal ends.**  No template fails for an unterminated
literal, since the lexer finds none in any region that is cut off; and code that can be read alone
is read between braces, with any blanks around it, as one block that is the same but for its
place. -/
theorem Template.scanner_lexer_agree :
    (∀ source : String,
      (∀ e, Template.parse source = .error e → e.fault ≠ .unterminatedLiteral) ∧
      ∀ interior, Piece.region interior ∈ cut source.toList →
        ∀ offset e, lex (trimBlanks interior) offset = .error e →
          e.fault ≠ .unterminatedLiteral) ∧
    ∀ (left code right : String) (block : Block),
      (∀ c ∈ left.toList, isBlank c = true) → (∀ c ∈ right.toList, isBlank c = true) →
      Code.parse code = .ok block →
      Template.parse (Code.braced left code right)
        = .ok ⟨Code.braced left code right,
            [⟨block.shift (2 + left.utf8ByteSize),
              ⟨0, (Code.braced left code right).utf8ByteSize⟩⟩]⟩ := by
  refine ⟨fun source => ⟨Template.terminated_parse source, ?_⟩, ?_⟩
  · intro interior hmem offset
    exact terminated_lexFrom offset none _ (balanced_of_mem_cut source.toList hmem).trimBlanks
  · intro left code right block hleft hright h
    exact Template.parse_braced hleft hright h

/-- A call whose literals hold quotes, backslashes and braces. -/
def quotedCall : String :=
  "box.say 'it\\'s \x7d\x7d' by=\"\x7b\x7b\\\\\""

/-- The interior of a region that is refused, although its literal is closed. -/
def touchingWords : List Char :=
  " $x'\x7d\x7d' ".toList

/-- A template with nothing but this region. -/
def touchingSource : String :=
  "\x7b\x7b $x'\x7d\x7d' \x7d\x7d"

theorem scanner_lexer_agree_quotedCall :
    (∃ e, Template.parse touchingSource = .error e ∧ e.fault ≠ .unterminatedLiteral) ∧
    (∃ e, Piece.region touchingWords ∈ cut touchingSource.toList ∧
      lex (trimBlanks touchingWords) 3 = .error e ∧ e.fault ≠ .unterminatedLiteral) ∧
    ∃ block, Code.parse quotedCall = .ok block ∧
      Template.parse (Code.braced " \t" quotedCall "\n")
        = .ok ⟨Code.braced " \t" quotedCall "\n", [⟨block.shift 4, ⟨0, 35⟩⟩]⟩ := by
  obtain ⟨hclosed, hbraced⟩ := Template.scanner_lexer_agree
  have hparse : Template.parse touchingSource
      = .error ⟨⟨3, 9⟩, .unseparated, some "$x'\x7d\x7d'"⟩ := by
    cbv
  have hregion : cut touchingSource.toList = [.region touchingWords] := by
    cbv
  have hlex : lex (trimBlanks touchingWords) 3 = .error ⟨⟨3, 9⟩, .unseparated, none⟩ := by
    cbv
  have hcode : Code.parse quotedCall
      = .ok (.invocation
          { function := ⟨⟨some "box", "say"⟩, ⟨0, 7⟩⟩
            positional := [⟨.value ⟨"it's \x7d\x7d", .single⟩, ⟨8, 18⟩⟩]
            named := .ofList [("by", ⟨⟨⟨"by", ⟨19, 21⟩⟩,
              ⟨.value ⟨"\x7b\x7b\\", .double⟩, ⟨22, 28⟩⟩⟩, ⟨19, 28⟩⟩)] }) := by
    cbv
  obtain ⟨hsource, hinterior⟩ := hclosed touchingSource
  have hmem : Piece.region touchingWords ∈ cut touchingSource.toList := by
    rw [hregion]
    exact List.mem_cons_self
  have hleft : ∀ c ∈ " \t".toList, isBlank c = true := by simp [isBlank]
  have hright : ∀ c ∈ "\n".toList, isBlank c = true := by simp [isBlank]
  refine ⟨⟨_, hparse, hsource _ hparse⟩, ⟨_, hmem, hlex, hinterior _ hmem 3 _ hlex⟩, _, hcode, ?_⟩
  exact hbraced " \t" quotedCall "\n" _ hleft hright hcode

end PromptEngine
