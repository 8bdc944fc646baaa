/-
# SomeServer.Lib.SqlText — the texts of SQL, read byte by byte

A statement comes to a server as bytes. They are read into words, quoted names, string literals and marks by a
scanner that takes one byte at a time (`Mode.step`). Between its quotes a name stands for itself when it has no
backtick (`run_ident`), and a literal for what its bytes and escapes say.

Literals are read with backslash escapes. The bytes that begin a comment, and every other byte that is in no
statement here, are not read at all outside of quotes. Keywords are read as they are written.
-/
import SomeServer.Lib.Scanner

namespace SomeServer.Lib.SqlText

/-- Text as a server gets it. -/
abbrev Bytes : Type := List UInt8

/-- The bytes of a fixed text. -/
def utf8 (text : String) : Bytes := text.toByteArray.data.toList

theorem utf8_eq (text : String) : utf8 text = text.toList.flatMap String.utf8EncodeChar := by
  rw [utf8, ← String.utf8Encode_toList, List.utf8Encode, List.toList_data_toByteArray]

/-- The bytes of an ASCII text are its characters. -/
theorem mem_utf8 {text : String} {b : UInt8} (h : ∀ c ∈ text.toList, c.toNat < 0x80) (hb : b ∈ utf8 text) :
    ∃ c ∈ text.toList, b = UInt8.ofNat c.toNat := by
  rw [utf8_eq] at hb
  obtain ⟨c, hc, hb⟩ := List.mem_flatMap.mp hb
  have hle : c.toNat ≤ 0x7F := Nat.le_of_lt_succ (h c hc)
  rw [String.utf8EncodeChar, show c.val.toNat = c.toNat from rfl, if_pos hle] at hb
  exact ⟨c, hc, List.mem_singleton.mp hb⟩

inductive Token where
  | word (text : Bytes)
  | ident (text : Bytes)
  | string (text : Bytes)
  | mark (byte : UInt8)
deriving DecidableEq, Repr

def backslash : UInt8 := 0x5C

def backtick : UInt8 := 0x60

def apostrophe : UInt8 := 0x27

def quotation : UInt8 := 0x22

def isSpace (b : UInt8) : Bool := b = 0x20 || (0x09 ≤ b && b ≤ 0x0D)

/-- Letters, digits, the underscore, the dollar sign, and what is not ASCII. -/
def isWordByte (b : UInt8) : Bool :=
  (0x30 ≤ b && b ≤ 0x39) || (0x41 ≤ b && b ≤ 0x5A) || (0x61 ≤ b && b ≤ 0x7A) || b = 0x5F || b = 0x24 || 0x80 ≤ b

/-- `( ) * , . ; =` -/
def isMark (b : UInt8) : Bool := [0x28, 0x29, 0x2A, 0x2C, 0x2E, 0x3B, 0x3D].contains b

/-- What stands behind a backslash in a literal. -/
def unescape (b : UInt8) : Bytes :=
  if b = 0x30 then [0x00]
  else if b = 0x62 then [0x08]
  else if b = 0x6E then [0x0A]
  else if b = 0x72 then [0x0D]
  else if b = 0x74 then [0x09]
  else if b = 0x5A then [0x1A]
  -- `\%` and `\_` are left to the patterns
  else if b = 0x25 ∨ b = 0x5F then [backslash, b]
  else [b]

/-- Where the reader is: between tokens, in a word, in a quoted name or behind a backtick in it, or in a literal,
behind a backslash in it, or behind its quote. -/
inductive Mode where
  | plain
  | word (text : Bytes)
  | ident (text : Bytes)
  | identQuote (text : Bytes)
  | string (quote : UInt8) (text : Bytes)
  | stringEscape (quote : UInt8) (text : Bytes)
  | stringQuote (quote : UInt8) (text : Bytes)
deriving DecidableEq, Repr

namespace Mode

/-- A byte between tokens. -/
def begin (b : UInt8) : Option (List Token × Mode) :=
  if isSpace b then some ([], plain)
  else if isWordByte b then some ([], word [b])
  else if b = backtick then some ([], ident [])
  else if b = apostrophe ∨ b = quotation then some ([], string b [])
  else if isMark b then some ([.mark b], plain)
  else none

/-- A byte that ends a token and begins the next. -/
def behind (token : Token) (b : UInt8) : Option (List Token × Mode) := (begin b).map fun r => (token :: r.1, r.2)

def step : Mode → UInt8 → Option (List Token × Mode)
  | plain, b => begin b
  | word text, b =>
      if isWordByte b then some ([], word (text ++ [b]))
      -- a word before a quote says how the literal is to be read
      else if b = apostrophe ∨ b = quotation then none
      else behind (.word text) b
  | ident text, b => if b = backtick then some ([], identQuote text) else some ([], ident (text ++ [b]))
  | identQuote text, b => if b = backtick then some ([], ident (text ++ [b])) else behind (.ident text) b
  | string quote text, b =>
      if b = backslash then some ([], stringEscape quote text)
      else if b = quote then some ([], stringQuote quote text)
      else some ([], string quote (text ++ [b]))
  | stringEscape quote text, b => some ([], string quote (text ++ unescape b))
  | stringQuote quote text, b =>
      if b = quote then some ([], string quote (text ++ [b])) else behind (.string text) b

/-- The end of the text. -/
def finish : Mode → Option (List Token)
  | plain => some []
  | word text => some [.word text]
  | identQuote text => some [.ident text]
  | stringQuote _ text => some [.string text]
  | ident _ | string _ _ | stringEscape _ _ => none

end Mode

/-- The reader of texts. -/
def scanner : Scanner Mode UInt8 Token := ⟨Mode.step, Mode.finish⟩

/-- The tokens of a text. -/
def tokens (text : Bytes) : Option (List Token) := scanner.tokens .plain text

/-- A quoted name without a backtick stands for itself. -/
theorem run_ident {text bs : Bytes} (h : ∀ b ∈ bs, b ≠ backtick) :
    scanner.run (.ident text) bs = some ([], .ident (text ++ bs)) := by
  induction bs generalizing text with
  | nil => simp
  | cons b bs ih =>
      have hb : b ≠ backtick := h b List.mem_cons_self
      have hstep : scanner.step (.ident text) b = some ([], .ident (text ++ [b])) := if_neg hb
      rw [Scanner.run_cons, hstep, Option.bind_some, ih fun b' hb' => h b' (List.mem_cons_of_mem b hb')]
      simp

/-! ## Reading tokens -/

/-- A reader of tokens. -/
abbrev Reader : Type → Type := StateT (List Token) Option

namespace Reader

/-- These tokens come next. -/
def expect : List Token → Reader Unit
  | [], ts => some ((), ts)
  | _ :: _, [] => none
  | t :: expected, t' :: ts => if t = t' then expect expected ts else none

/-- The words and marks of this text come next. -/
def words (text : String) : Reader Unit := fun ts => (tokens (utf8 text)).bind fun expected => expect expected ts

def name : Reader Bytes
  | .ident text :: ts => some (text, ts)
  | _ => none

def literal : Reader Bytes
  | .string text :: ts => some (text, ts)
  | _ => none

/-- Everything that is left. -/
def rest : Reader (List Token) := fun ts => some (ts, [])

/-- Nothing may be left over. -/
def all {α : Type} (reader : Reader α) (ts : List Token) : Option α :=
  (reader ts).bind fun r => if r.2 = [] then some r.1 else none

end Reader

end SomeServer.Lib.SqlText
