/-
  PromptEngine.Text.Span — positions in a text, counted in bytes of its UTF-8 form.

  Positions and spans are byte offsets, while texts are lists of characters; `byteSize`,
  `dropBytes` and `slice` connect the two.  Main facts: cutting a text at the size of a front part
  gives back the two parts (`takeBytes_append`, `dropBytes_append`).
-/

namespace PromptEngine

/-! ## §1. Sizes and cuts. -/

/-- The number of bytes that a text takes in UTF-8. -/
def byteSize : List Char → Nat
  | [] => 0
  | c :: rest => c.utf8Size + byteSize rest

@[simp] theorem byteSize_nil : byteSize [] = 0 := rfl

@[simp] theorem byteSize_cons (c : Char) (text : List Char) :
    byteSize (c :: text) = c.utf8Size + byteSize text := rfl

@[simp] theorem byteSize_append (a b : List Char) :
    byteSize (a ++ b) = byteSize a + byteSize b := by
  induction a with
  | nil => simp
  | cons c rest ih => simp [ih, Nat.add_assoc]

theorem byteSize_pos {text : List Char} (h : text ≠ []) : 0 < byteSize text := by
  obtain ⟨c, rest, rfl⟩ := List.exists_cons_of_ne_nil h
  have := c.utf8Size_pos
  rw [byteSize_cons]
  omega

/-- A text takes as many bytes as its characters do together. -/
theorem byteSize_toList (text : String) : byteSize text.toList = text.utf8ByteSize := by
  have h : ∀ cs : List Char, byteSize cs = (String.ofList cs).utf8ByteSize := by
    intro cs
    induction cs with
    | nil => rfl
    | cons c cs ih =>
      rw [byteSize_cons, ih, ← List.singleton_append, String.ofList_append,
        String.utf8ByteSize_append, ← String.singleton_eq_ofList, String.utf8ByteSize_singleton]
  rw [h, String.ofList_toList]

/-- The characters that begin before byte `n`. -/
def takeBytes : Nat → List Char → List Char
  | 0, _ => []
  | _, [] => []
  | n + 1, c :: rest => c :: takeBytes (n + 1 - c.utf8Size) rest

/-- The characters that begin at byte `n` or later. -/
def dropBytes : Nat → List Char → List Char
  | 0, text => text
  | _, [] => []
  | n + 1, c :: rest => dropBytes (n + 1 - c.utf8Size) rest

theorem takeBytes_append (a b : List Char) : takeBytes (byteSize a) (a ++ b) = a := by
  induction a with
  | nil => simp [takeBytes]
  | cons c rest ih =>
    obtain ⟨k, hk⟩ : ∃ k, c.utf8Size + byteSize rest = k + 1 :=
      ⟨c.utf8Size + byteSize rest - 1, by have := c.utf8Size_pos; omega⟩
    have : k + 1 - c.utf8Size = byteSize rest := by omega
    simp [hk, takeBytes, this, ih]

theorem dropBytes_append (a b : List Char) : dropBytes (byteSize a) (a ++ b) = b := by
  induction a with
  | nil => simp [dropBytes]
  | cons c rest ih =>
    obtain ⟨k, hk⟩ : ∃ k, c.utf8Size + byteSize rest = k + 1 :=
      ⟨c.utf8Size + byteSize rest - 1, by have := c.utf8Size_pos; omega⟩
    have : k + 1 - c.utf8Size = byteSize rest := by omega
    simp [hk, dropBytes, this, ih]

/-! ## §2. Spans. -/

/-- A half-open range of byte positions. -/
structure Span where
  start : Nat
  stop : Nat
  deriving DecidableEq, Repr, Inhabited

namespace Span

/-- The same range in a text that has `offset` bytes put before it. -/
def shift (offset : Nat) (span : Span) : Span :=
  ⟨span.start + offset, span.stop + offset⟩

/-- The range from the start of one span to the end of another. -/
def through (first last : Span) : Span :=
  ⟨first.start, last.stop⟩

/-- A span is written as its two ends with two dots between them. -/
def toText (span : Span) : String :=
  s!"{span.start}..{span.stop}"

end Span

/-- The characters of `text` whose bytes lie in `span`. -/
def slice (text : List Char) (span : Span) : List Char :=
  takeBytes (span.stop - span.start) (dropBytes span.start text)

/-- The middle of three parts is the slice at its own bytes. -/
theorem slice_append (a b c : List Char) :
    slice (a ++ b ++ c) ⟨byteSize a, byteSize a + byteSize b⟩ = b := by
  simp [slice, List.append_assoc, dropBytes_append, takeBytes_append]

/-- A piece of syntax together with the bytes that it was read from. -/
structure Spanned (α : Type) where
  node : α
  span : Span
  deriving DecidableEq, Repr

namespace Spanned

/-- Move the span, keep the node. -/
def shift {α : Type} (offset : Nat) (s : Spanned α) : Spanned α :=
  { s with span := s.span.shift offset }

end Spanned

end PromptEngine
