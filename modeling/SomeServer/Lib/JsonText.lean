/-
# SomeServer.Lib.JsonText — the texts of JSON, read byte by byte

A text is read into strings, words and marks by a scanner, and these into a value by a machine that keeps a stack of
the arrays and objects that are not closed yet (`next`). Numbers, `true`, `false` and `null` are words here, and what
a word means is not looked at. Strings are the bytes that they stand for; a code unit of a surrogate pair is not read.
-/
import SomeServer.Lib.Scanner

namespace SomeServer.Lib.JsonText

/-- Text as it comes. -/
abbrev Bytes : Type := List UInt8

inductive Token where
  | mark (byte : UInt8)
  | string (text : Bytes)
  | word (text : Bytes)
deriving DecidableEq, Repr

def quotation : UInt8 := 0x22

def backslash : UInt8 := 0x5C

def comma : UInt8 := 0x2C

def colon : UInt8 := 0x3A

def openArray : UInt8 := 0x5B

def closeArray : UInt8 := 0x5D

def openObject : UInt8 := 0x7B

def closeObject : UInt8 := 0x7D

def isSpace (b : UInt8) : Bool := [0x20, 0x09, 0x0A, 0x0D].contains b

def isMark (b : UInt8) : Bool := [comma, colon, openArray, closeArray, openObject, closeObject].contains b

/-- Letters, digits, and `+ - .` -/
def isWordByte (b : UInt8) : Bool :=
  (0x30 ≤ b && b ≤ 0x39) || (0x41 ≤ b && b ≤ 0x5A) || (0x61 ≤ b && b ≤ 0x7A) || b = 0x2B || b = 0x2D || b = 0x2E

/-- What stands behind a backslash, other than a code unit. -/
def unescape (b : UInt8) : Option UInt8 :=
  if b = quotation ∨ b = backslash ∨ b = 0x2F then some b
  else if b = 0x62 then some 0x08
  else if b = 0x66 then some 0x0C
  else if b = 0x6E then some 0x0A
  else if b = 0x72 then some 0x0D
  else if b = 0x74 then some 0x09
  else none

def hexValue (b : UInt8) : Option Nat :=
  if 0x30 ≤ b ∧ b ≤ 0x39 then some (b.toNat - 0x30)
  else if 0x41 ≤ b ∧ b ≤ 0x46 then some (b.toNat - 0x41 + 10)
  else if 0x61 ≤ b ∧ b ≤ 0x66 then some (b.toNat - 0x61 + 10)
  else none

/-- The bytes of a code unit that is a character. -/
def ofCodeUnit (unit : Nat) : Option Bytes :=
  if 0xD800 ≤ unit ∧ unit ≤ 0xDFFF then none else some (String.utf8EncodeChar (Char.ofNat unit))

/-- Where the reader is: between tokens, in a word, in a string, behind a backslash in it, or behind some of the
digits of a code unit, of which there are `count` and the value is `unit`. -/
inductive Mode where
  | plain
  | word (text : Bytes)
  | string (text : Bytes)
  | escape (text : Bytes)
  | codeUnit (text : Bytes) (count unit : Nat)
deriving DecidableEq, Repr

namespace Mode

/-- A byte between tokens. -/
def begin (b : UInt8) : Option (List Token × Mode) :=
  if isSpace b then some ([], plain)
  else if isMark b then some ([.mark b], plain)
  else if b = quotation then some ([], string [])
  else if isWordByte b then some ([], word [b])
  else none

def step : Mode → UInt8 → Option (List Token × Mode)
  | plain, b => begin b
  | word text, b =>
      if isWordByte b then some ([], word (text ++ [b]))
      else if b = quotation then none
      else (begin b).map fun r => (.word text :: r.1, r.2)
  | string text, b =>
      if b = quotation then some ([.string text], plain)
      else if b = backslash then some ([], escape text)
      else if b < 0x20 then none
      else some ([], string (text ++ [b]))
  | escape text, b =>
      if b = 0x75 then some ([], codeUnit text 0 0) else (unescape b).map fun c => ([], string (text ++ [c]))
  | codeUnit text count unit, b =>
      (hexValue b).bind fun digit =>
        if count < 3 then some ([], codeUnit text (count + 1) (unit * 16 + digit))
        else (ofCodeUnit (unit * 16 + digit)).map fun bytes => ([], string (text ++ bytes))

/-- The end of the text. -/
def finish : Mode → Option (List Token)
  | plain => some []
  | word text => some [.word text]
  | string _ | escape _ | codeUnit _ _ _ => none

end Mode

/-- The reader of texts. -/
def scanner : Scanner Mode UInt8 Token := ⟨Mode.step, Mode.finish⟩

/-! ## Values -/

inductive Value where
  | word (text : Bytes)
  | string (text : Bytes)
  | array (items : List Value)
  | object (members : List (Bytes × Value))

/-- An array or an object that is not closed yet, the latter with the key that has been read last. -/
inductive Frame where
  | array (items : List Value)
  | object (members : List (Bytes × Value)) (key : Bytes)

/-- What may come next: a value, the first of an array, what follows a value, the first key of an object, another
one, a colon, or nothing any more. -/
inductive Place where
  | value
  | item
  | after
  | firstKey
  | key
  | colon
  | done (value : Value)

abbrev Nesting : Type := List Frame × Place

/-- A value is complete. -/
def give (value : Value) : List Frame → Nesting
  | [] => ([], .done value)
  | .array items :: frames => (.array (items ++ [value]) :: frames, .after)
  | .object members key :: frames => (.object (members ++ [(key, value)]) key :: frames, .after)

/-- A token with which a value begins. -/
def beginValue (frames : List Frame) : Token → Option Nesting
  | .string text => some (give (.string text) frames)
  | .word text => some (give (.word text) frames)
  | .mark b =>
      if b = openArray then some (.array [] :: frames, .item)
      else if b = openObject then some (.object [] [] :: frames, .firstKey)
      else none

def next : Nesting → Token → Option Nesting
  | (frames, .value), t => beginValue frames t
  | (.array items :: frames, .item), t =>
      if t = .mark closeArray then some (give (.array items) frames) else beginValue (.array items :: frames) t
  | (.array items :: frames, .after), t =>
      if t = .mark comma then some (.array items :: frames, .value)
      else if t = .mark closeArray then some (give (.array items) frames)
      else none
  | (.object members key :: frames, .after), t =>
      if t = .mark comma then some (.object members key :: frames, .key)
      else if t = .mark closeObject then some (give (.object members) frames)
      else none
  | (.object members _ :: frames, .firstKey), .mark b =>
      if b = closeObject then some (give (.object members) frames) else none
  | (.object members _ :: frames, .firstKey), .string key => some (.object members key :: frames, .colon)
  | (.object members _ :: frames, .key), .string key => some (.object members key :: frames, .colon)
  | (frames, .colon), t => if t = .mark colon then some (frames, .value) else none
  | _, _ => none

/-- The value that is complete. -/
def Place.value? : Place → Option Value
  | .done v => some v
  | _ => none

/-- The value of a text. -/
def read (text : Bytes) : Option Value :=
  (scanner.tokens .plain text).bind fun ts => (ts.foldlM next ([], .value)).bind fun x => x.2.value?

/-- A text that takes the reader from the beginning to its end. -/
theorem read_eq {text : Bytes} {value : Value}
    (h : scanner.Reads next (.plain, [], .value) text (.plain, [], .done value)) : read text = some value := by
  obtain ⟨ts, hrun, hnext⟩ := h
  refine Scanner.bind_tokens_eq hrun rfl ?_
  rw [List.append_nil, hnext]
  rfl

end SomeServer.Lib.JsonText
