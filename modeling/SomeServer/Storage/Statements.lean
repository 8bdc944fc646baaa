/-
# SomeServer.Storage.Statements — the SQL texts of a dataset's table

The storage service puts its statements together from fixed pieces, the name of the dataset's table, and keys and
values that may be any bytes. The texts go to MariaDB as C strings. Here a server reads them (`MariaServer.query`)
as any SQL text, and what it then does is compared with what the call is for (`EntryStatement.perform`).

`mysql_real_escape_string` is the client library's: it is taken as any function that escapes as the library's
manual says, in a connection whose backslash escapes are on. How MariaDB compares keys is the collation's affair
(`collate`), and keys that it takes for the same have one row. Any statement may fail for a reason of the server.
-/
import SomeServer.Lib.SqlText
import SomeServer.Storage.Dataset
import SomeServer.Storage.Resolved
import Mathlib.Data.List.Forall2

namespace SomeServer

open Lib Lib.SqlText

/-! ## Escaping -/

/-- The bytes that are escaped, and the byte that stands for each behind a backslash. -/
def escapeCodes : List (UInt8 × UInt8) :=
  [(0x00, 0x30), (0x0A, 0x6E), (0x0D, 0x72), (0x5C, 0x5C), (0x27, 0x27), (0x22, 0x22), (0x1A, 0x5A)]

/-- What is written for a byte of a text. -/
inductive EscapedByte : UInt8 → Bytes → Prop
  | special {b code : UInt8} (h : (b, code) ∈ escapeCodes) : EscapedByte b [backslash, code]
  | plain {b : UInt8} (h : ∀ e ∈ escapeCodes, e.1 ≠ b) : EscapedByte b [b]
  -- the first byte of what is no character of the connection's character set
  | lead {b : UInt8} (h : 0x80 ≤ b) : EscapedByte b [backslash, b]

/-- `mysql_real_escape_string` writes the bytes of the text one after the other. -/
structure RealEscapeString (escape : Bytes → Bytes) : Prop where
  parts : ∀ text, ∃ parts, List.Forall₂ EscapedByte text parts ∧ escape text = parts.flatten

/-! ## The texts -/

/-- The statements on a dataset's table. -/
inductive EntryStatement where
  | create
  | toBinary
  | insert (key value : Bytes)
  | select (key : Bytes)
  | delete (key : Bytes)
deriving DecidableEq, Repr

/-- The text of a statement, as the service's calls put it together. -/
def EntryStatement.sql (escape : Bytes → Bytes) (table : Bytes) : EntryStatement → Bytes
  | create =>
      utf8 "CREATE TABLE IF NOT EXISTS `" ++ table ++
      utf8 "` (" ++
      utf8 "`entry_key` VARCHAR(255) NOT NULL," ++
      utf8 "`entry_value` LONGBLOB NOT NULL," ++
      utf8 "`updated_at` TIMESTAMP NOT NULL DEFAULT CURRENT_TIMESTAMP ON UPDATE CURRENT_TIMESTAMP," ++
      utf8 "PRIMARY KEY (`entry_key`)" ++
      utf8 ")"
  | toBinary => utf8 "ALTER TABLE `" ++ table ++ utf8 "` MODIFY COLUMN `entry_value` LONGBLOB NOT NULL"
  | insert key value =>
      utf8 "INSERT INTO `" ++ table ++ utf8 "` (`entry_key`, `entry_value`) VALUES ('" ++ escape key ++
      utf8 "', '" ++ escape value ++ utf8 "') ON DUPLICATE KEY UPDATE `entry_value`=VALUES(`entry_value`)"
  | select key =>
      utf8 "SELECT `entry_value` FROM `" ++ table ++ utf8 "` WHERE `entry_key`='" ++ escape key ++
      utf8 "' LIMIT 1"
  | delete key => utf8 "DELETE FROM `" ++ table ++ utf8 "` WHERE `entry_key`='" ++ escape key ++ utf8 "'"

/-- What is left of a text that is passed as a C string. -/
def cString (text : Bytes) : Bytes := text.takeWhile (· ≠ 0)

/-! ## The server -/

/-- The statements that a server here knows, with the names and the literals that they have. -/
inductive Statement where
  | createTable (table keyColumn valueColumn timeColumn primaryKey : Bytes)
  | modifyColumn (table column : Bytes)
  | upsert (table keyColumn valueColumn key value updated source : Bytes)
  | select (column table keyColumn key : Bytes)
  | delete (table keyColumn key : Bytes)
deriving DecidableEq, Repr

namespace Statement

open Reader

def readCreateTable : Reader Statement := do
  words "CREATE TABLE IF NOT EXISTS"
  let table ← name
  words "("
  let keyColumn ← name
  words "VARCHAR(255) NOT NULL,"
  let valueColumn ← name
  words "LONGBLOB NOT NULL,"
  let timeColumn ← name
  words "TIMESTAMP NOT NULL DEFAULT CURRENT_TIMESTAMP ON UPDATE CURRENT_TIMESTAMP, PRIMARY KEY ("
  let primaryKey ← name
  words "))"
  return .createTable table keyColumn valueColumn timeColumn primaryKey

def readModifyColumn : Reader Statement := do
  words "ALTER TABLE"
  let table ← name
  words "MODIFY COLUMN"
  let column ← name
  words "LONGBLOB NOT NULL"
  return .modifyColumn table column

def readUpsert : Reader Statement := do
  words "INSERT INTO"
  let table ← name
  words "("
  let keyColumn ← name
  words ","
  let valueColumn ← name
  words ") VALUES ("
  let key ← literal
  words ","
  let value ← literal
  words ") ON DUPLICATE KEY UPDATE"
  let updated ← name
  words "= VALUES ("
  let source ← name
  words ")"
  return .upsert table keyColumn valueColumn key value updated source

def readSelect : Reader Statement := do
  words "SELECT"
  let column ← name
  words "FROM"
  let table ← name
  words "WHERE"
  let keyColumn ← name
  words "="
  let key ← literal
  words "LIMIT 1"
  return .select column table keyColumn key

def readDelete : Reader Statement := do
  words "DELETE FROM"
  let table ← name
  words "WHERE"
  let keyColumn ← name
  words "="
  let key ← literal
  return .delete table keyColumn key

/-- The statement that these tokens are. -/
def ofTokens (ts : List Token) : Option Statement :=
  [readCreateTable, readModifyColumn, readUpsert, readSelect, readDelete].findSome? fun reader => reader.all ts

end Statement

/-- A table with a key and a value. -/
structure MariaTable (W : Type) where
  keyColumn : Bytes
  valueColumn : Bytes
  rows : W → Option Bytes := fun _ => none

/-- What `mysql_query` and `mysql_store_result` give. -/
inductive QueryReply where
  | done
  | value (value : Option Bytes)
  | error (message : String)
deriving DecidableEq, Repr

namespace MariaServer

variable {W : Type} [DecidableEq W]

def noSuchTable : QueryReply := .error "table doesn't exist"

def unknownColumn : QueryReply := .error "unknown column"

def syntaxError : QueryReply := .error "you have an error in your SQL syntax"

/-- What a statement does to the tables. -/
def execute (collate : Bytes → W) (tables : Bytes → Option (MariaTable W)) :
    Statement → (Bytes → Option (MariaTable W)) × QueryReply
  | .createTable table keyColumn valueColumn _ primaryKey =>
      if primaryKey ≠ keyColumn then (tables, unknownColumn)
      else match tables table with
        | some _ => (tables, .done)
        | none => (Function.update tables table (some { keyColumn, valueColumn }), .done)
  | .modifyColumn table column =>
      match tables table with
      | none => (tables, noSuchTable)
      | some t => if t.valueColumn ≠ column then (tables, unknownColumn) else (tables, .done)
  | .upsert table keyColumn valueColumn key value updated source =>
      match tables table with
      | none => (tables, noSuchTable)
      | some t =>
          if t.keyColumn ≠ keyColumn ∨ t.valueColumn ≠ valueColumn ∨ updated ≠ valueColumn ∨ source ≠ valueColumn then
            (tables, unknownColumn)
          else
            (Function.update tables table
              (some { t with rows := Function.update t.rows (collate key) (some value) }), .done)
  | .select column table keyColumn key =>
      match tables table with
      | none => (tables, noSuchTable)
      | some t =>
          if t.keyColumn ≠ keyColumn ∨ t.valueColumn ≠ column then (tables, unknownColumn)
          else (tables, .value (t.rows (collate key)))
  | .delete table keyColumn key =>
      match tables table with
      | none => (tables, noSuchTable)
      | some t =>
          if t.keyColumn ≠ keyColumn then (tables, unknownColumn)
          else
            (Function.update tables table (some { t with rows := Function.update t.rows (collate key) none }), .done)

/-- A text comes to the server. -/
def query (collate : Bytes → W) (text : Bytes) (tables : Bytes → Option (MariaTable W)) :
    (Bytes → Option (MariaTable W)) × QueryReply :=
  match (tokens (cString text)).bind Statement.ofTokens with
  | none => (tables, syntaxError)
  | some statement => execute collate tables statement

end MariaServer

/-! ## The calls -/

/-- What the service makes of the reply: a row that is missing is a failure. -/
def QueryReply.result : QueryReply → Result × Option Bytes
  | done => (⟨true, "OK"⟩, none)
  | value none => (.failure "not found", none)
  | value (some v) => (⟨true, "OK"⟩, some v)
  | error message => (.failure message, none)

namespace StorageService

/-- The bytes of the name of a dataset's table. -/
def entriesTable (configuration : ResolvedStorageConfiguration) (datasetName : String) : Bytes :=
  utf8 (buildMariaEntriesTableName configuration datasetName)

variable {W : Type} [DecidableEq W] (configuration : ResolvedStorageConfiguration) (escape : Bytes → Bytes)
  (collate : Bytes → W)

/-- A statement for the table of a dataset is put together and sent. -/
def send (datasetName : String) (statement : EntryStatement) (fate : Fate) (tables : Bytes → Option (MariaTable W)) :
    (Bytes → Option (MariaTable W)) × Result × Option Bytes :=
  let table := entriesTable configuration datasetName
  if table = [] then (tables, .failure "dataset table_prefix is invalid", none)
  else match fate with
    | .failed message => (tables, .failure message, none)
    | .executed =>
        let x := MariaServer.query collate (statement.sql escape table) tables
        (x.1, x.2.result)

/-- Some statements, for any datasets. -/
def sendAll : List (String × EntryStatement × Fate) → (Bytes → Option (MariaTable W)) →
    (Bytes → Option (MariaTable W)) × List (Result × Option Bytes)
  | [], tables => (tables, [])
  | (datasetName, statement, fate) :: calls, tables =>
      let x := send configuration escape collate datasetName statement fate tables
      let y := sendAll calls x.1
      (y.1, x.2 :: y.2)

end StorageService

/-! ## What the statements are for -/

section Meaning

variable {W : Type} [DecidableEq W] (collate : Bytes → W)

/-- What a statement is for, on the rows of the one table, which may not be there yet. -/
def EntryStatement.perform : EntryStatement → Option (W → Option Bytes) →
    Option (W → Option Bytes) × Result × Option Bytes
  | create, none => (some fun _ => none, ⟨true, "OK"⟩, none)
  | create, some rows => (some rows, ⟨true, "OK"⟩, none)
  | toBinary, some rows => (some rows, ⟨true, "OK"⟩, none)
  | insert key value, some rows => (some (Function.update rows (collate key) (some value)), ⟨true, "OK"⟩, none)
  | select key, some rows =>
      match rows (collate key) with
      | none => (some rows, .failure "not found", none)
      | some value => (some rows, ⟨true, "OK"⟩, some value)
  | delete key, some rows => (some (Function.update rows (collate key) none), ⟨true, "OK"⟩, none)
  | toBinary, none | insert _ _, none | select _, none | delete _, none => (none, .failure "table doesn't exist", none)

def EntryStatement.performAll : List (EntryStatement × Fate) → Option (W → Option Bytes) →
    Option (W → Option Bytes) × List (Result × Option Bytes)
  | [], entries => (entries, [])
  | (_, .failed message) :: calls, entries =>
      let y := performAll calls entries
      (y.1, (.failure message, none) :: y.2)
  | (statement, .executed) :: calls, entries =>
      let x := statement.perform collate entries
      let y := performAll calls x.1
      (y.1, x.2 :: y.2)

end Meaning

/-- The statement that a text of the service is to be. -/
def EntryStatement.statement (table : Bytes) : EntryStatement → Statement
  | create => .createTable table (utf8 "entry_key") (utf8 "entry_value") (utf8 "updated_at") (utf8 "entry_key")
  | toBinary => .modifyColumn table (utf8 "entry_value")
  | insert key value =>
      .upsert table (utf8 "entry_key") (utf8 "entry_value") key value (utf8 "entry_value") (utf8 "entry_value")
  | select key => .select (utf8 "entry_value") table (utf8 "entry_key") key
  | delete key => .delete table (utf8 "entry_key") key

/-! ## Escaped bytes -/

namespace EscapedByte

variable {b : UInt8} {part text : Bytes}

theorem run (h : EscapedByte b part) :
    scanner.run (.string apostrophe text) part = some ([], .string apostrophe (text ++ [b])) := by
  cases h with
  | special h =>
      simp only [escapeCodes, List.mem_cons, Prod.mk.injEq, List.not_mem_nil, or_false] at h
      rcases h with ⟨rfl, rfl⟩ | ⟨rfl, rfl⟩ | ⟨rfl, rfl⟩ | ⟨rfl, rfl⟩ | ⟨rfl, rfl⟩ | ⟨rfl, rfl⟩ | ⟨rfl, rfl⟩ <;> rfl
  | plain h =>
      have hbackslash : b ≠ backslash := (h (0x5C, 0x5C) (by decide)).symm
      have hquote : b ≠ apostrophe := (h (0x27, 0x27) (by decide)).symm
      apply Scanner.run_singleton
      show Mode.step (.string apostrophe text) b = _
      rw [Mode.step, if_neg hbackslash, if_neg hquote]
  | lead h =>
      have hbyte : unescape b = [b] := by
        have hne : ∀ c : UInt8, c < 0x80 → b ≠ c := fun c hc hbc => absurd h (by rw [hbc]; exact UInt8.not_le.mpr hc)
        simp [unescape, hne]
      have hread : scanner.step (.stringEscape apostrophe text) b = some ([], .string apostrophe (text ++ [b])) := by
        rw [← hbyte]
        rfl
      have hescaped : scanner.step (.string apostrophe text) backslash = some ([], .stringEscape apostrophe text) := rfl
      rw [Scanner.run_cons, hescaped, Option.bind_some, Scanner.run_singleton hread]
      rfl

theorem length_le (h : EscapedByte b part) : part.length ≤ 2 := by
  cases h <;> simp

theorem ne_zero (h : EscapedByte b part) : ∀ c ∈ part, c ≠ 0 := by
  cases h with
  | special h =>
      simp only [escapeCodes, List.mem_cons, Prod.mk.injEq, List.not_mem_nil, or_false] at h
      rcases h with ⟨-, rfl⟩ | ⟨-, rfl⟩ | ⟨-, rfl⟩ | ⟨-, rfl⟩ | ⟨-, rfl⟩ | ⟨-, rfl⟩ | ⟨-, rfl⟩ <;> simp [backslash]
  | plain h =>
      intro c hc
      rw [List.mem_singleton.mp hc]
      exact (h (0x00, 0x30) (by decide)).symm
  | lead h =>
      intro c hc
      rcases List.mem_cons.mp hc with rfl | hc
      · decide
      · rw [List.mem_singleton.mp hc]
        rintro rfl
        exact absurd h (by decide)

end EscapedByte

namespace RealEscapeString

variable {escape : Bytes → Bytes} (hescape : RealEscapeString escape)

include hescape

/-- Between apostrophes an escaped text stands for the text. -/
theorem run (text : Bytes) :
    scanner.run (.string apostrophe []) (escape text) = some ([], .string apostrophe text) := by
  obtain ⟨parts, hparts, hwritten⟩ := hescape.parts text
  rw [hwritten]
  exact Scanner.run_pieces (hparts.imp fun _ _ h _ => h.run) []

theorem ne_zero (text : Bytes) : ∀ c ∈ escape text, c ≠ 0 := by
  obtain ⟨parts, hparts, hwritten⟩ := hescape.parts text
  rw [hwritten]
  clear hwritten
  intro c hc
  induction hparts with
  | nil => cases hc
  | cons h _ ih =>
      rcases List.mem_append.mp (List.flatten_cons ▸ hc) with hc | hc
      · exact h.ne_zero c hc
      · exact ih hc

/-- `EscapeMariaLiteral` has room for what is written and for the zero behind it. -/
theorem length_le (text : Bytes) : (escape text).length + 1 ≤ text.length * 2 + 1 := by
  obtain ⟨parts, hparts, hwritten⟩ := hescape.parts text
  rw [hwritten]
  clear hwritten
  induction hparts with
  | nil => simp
  | cons h _ ih =>
      have hpart := h.length_le
      simp only [List.flatten_cons, List.length_append, List.length_cons]
      omega

end RealEscapeString

/-! ## What the server reads -/

section Texts

variable {escape : Bytes → Bytes} {table : Bytes} {statement : EntryStatement}

/-- The name of a table is of bytes that are neither a backtick nor zero. -/
def NamesTable (table : Bytes) : Prop := ∀ b ∈ table, b ≠ backtick ∧ b ≠ 0

theorem NamesTable.run (htable : NamesTable table) :
    scanner.run (.ident []) table = some ([], .ident table) := by
  rw [run_ident fun b hb => (htable b hb).1, List.nil_append]

set_option maxRecDepth 2000 in
/-- A text is read as the statement that it is to be, whatever the key and the value are. -/
theorem EntryStatement.ofTokens_sql (hescape : RealEscapeString escape) (htable : NamesTable table) :
    (tokens (statement.sql escape table)).bind Statement.ofTokens = some (statement.statement table) := by
  have hname := htable.run
  cases statement with
  | create =>
      apply Scanner.bind_tokens_eq
      · exact Scanner.run_append_eq (Scanner.run_append_eq (Scanner.run_append_eq (Scanner.run_append_eq (Scanner.run_append_eq
          (Scanner.run_append_eq (Scanner.run_append_eq rfl hname) rfl) rfl) rfl) rfl) rfl) rfl
      · rfl
      · rfl
  | toBinary =>
      apply Scanner.bind_tokens_eq
      · exact Scanner.run_append_eq (Scanner.run_append_eq rfl hname) rfl
      · rfl
      · rfl
  | insert key value =>
      apply Scanner.bind_tokens_eq
      · exact Scanner.run_append_eq (Scanner.run_append_eq (Scanner.run_append_eq (Scanner.run_append_eq (Scanner.run_append_eq
          (Scanner.run_append_eq rfl hname) rfl) (hescape.run key)) rfl) (hescape.run value)) rfl
      · rfl
      · rfl
  | select key =>
      apply Scanner.bind_tokens_eq
      · exact Scanner.run_append_eq (Scanner.run_append_eq (Scanner.run_append_eq (Scanner.run_append_eq rfl hname) rfl)
          (hescape.run key)) rfl
      · rfl
      · rfl
  | delete key =>
      apply Scanner.bind_tokens_eq
      · exact Scanner.run_append_eq (Scanner.run_append_eq (Scanner.run_append_eq (Scanner.run_append_eq rfl hname) rfl)
          (hescape.run key)) rfl
      · rfl
      · rfl

/-- And it has no zero, so it comes whole. -/
theorem EntryStatement.cString_sql (hescape : RealEscapeString escape) (htable : NamesTable table) :
    cString (statement.sql escape table) = statement.sql escape table := by
  have hzero : ∀ text : String, (utf8 text).all (· ≠ 0) = true → ∀ b ∈ utf8 text, b ≠ 0 := fun text h b hb => by
    simpa using List.all_eq_true.mp h b hb
  have hname : ∀ b ∈ table, b ≠ 0 := fun b hb => (htable b hb).2
  have hall : ∀ b ∈ statement.sql escape table, b ≠ 0 := by
    cases statement with
    | create =>
        simp only [EntryStatement.sql, List.forall_mem_append]
        exact ⟨⟨⟨⟨⟨⟨⟨hzero _ rfl, hname⟩, hzero _ rfl⟩, hzero _ rfl⟩, hzero _ rfl⟩, hzero _ rfl⟩, hzero _ rfl⟩,
          hzero _ rfl⟩
    | toBinary =>
        simp only [EntryStatement.sql, List.forall_mem_append]
        exact ⟨⟨hzero _ rfl, hname⟩, hzero _ rfl⟩
    | insert key value =>
        simp only [EntryStatement.sql, List.forall_mem_append]
        exact ⟨⟨⟨⟨⟨⟨hzero _ rfl, hname⟩, hzero _ rfl⟩, hescape.ne_zero key⟩, hzero _ rfl⟩, hescape.ne_zero value⟩,
          hzero _ rfl⟩
    | select key =>
        simp only [EntryStatement.sql, List.forall_mem_append]
        exact ⟨⟨⟨⟨hzero _ rfl, hname⟩, hzero _ rfl⟩, hescape.ne_zero key⟩, hzero _ rfl⟩
    | delete key =>
        simp only [EntryStatement.sql, List.forall_mem_append]
        exact ⟨⟨⟨⟨hzero _ rfl, hname⟩, hzero _ rfl⟩, hescape.ne_zero key⟩, hzero _ rfl⟩
  rw [cString, List.takeWhile_eq_self_iff]
  exact fun b hb => by simpa using hall b hb

end Texts

theorem isIdentifierChar_toNat {c : Char} (h : isIdentifierChar c = true) :
    c.toNat < 0x80 ∧ c.toNat ≠ 0x60 ∧ c.toNat ≠ 0 := by
  delta isIdentifierChar Char.isAlphanum Char.isAlpha Char.isUpper Char.isLower Char.isDigit at h
  simp only [Bool.or_eq_true, Bool.and_eq_true, decide_eq_true_eq, ge_iff_le, UInt32.le_iff_toNat_le] at h
  change (((0x41 ≤ c.toNat ∧ c.toNat ≤ 0x5A) ∨ (0x61 ≤ c.toNat ∧ c.toNat ≤ 0x7A)) ∨
    (0x30 ≤ c.toNat ∧ c.toNat ≤ 0x39)) ∨ c = '_' at h
  rcases h with ((h | h) | h) | rfl
  · omega
  · omega
  · omega
  · decide

namespace StorageService

variable {configuration : ResolvedStorageConfiguration} {datasetName : String}

/-- The name of a dataset's table is made of the checked characters, or of none. -/
theorem namesTable : NamesTable (entriesTable configuration datasetName) := by
  have hchars : ∀ c ∈ (buildMariaEntriesTableName configuration datasetName).toList, isIdentifierChar c = true := by
    unfold buildMariaEntriesTableName
    split
    · simp
    · split
      · simp
      · rename_i dataset _ hsafe
        have hend : ∀ c ∈ "entries".toList, isIdentifierChar c = true := by simp [isIdentifierChar]
        simp only [String.toList_append, List.forall_mem_append]
        refine ⟨fun c hc => ?_, hend⟩
        simp only [isSafeSqlIdentifier] at hsafe
        grind
  intro b hb
  obtain ⟨c, hc, rfl⟩ := mem_utf8 (fun c hc => (isIdentifierChar_toNat (hchars c hc)).1) hb
  obtain ⟨hascii, hbacktick, hzero⟩ := isIdentifierChar_toNat (hchars c hc)
  constructor
  · intro heq
    have hnat : c.toNat % 256 = 0x60 := congrArg UInt8.toNat heq
    omega
  · intro heq
    have hnat : c.toNat % 256 = 0 := congrArg UInt8.toNat heq
    omega

end StorageService

/-! ## One statement -/

section Steps

variable {W : Type} [DecidableEq W] (collate : Bytes → W) {tables : Bytes → Option (MariaTable W)} {table : Bytes}

/-- The rows of a table. -/
def MariaTable.entries (tables : Bytes → Option (MariaTable W)) (table : Bytes) : Option (W → Option Bytes) :=
  (tables table).map (·.rows)

/-- A table that is there is one of entries. -/
def EntryColumns (tables : Bytes → Option (MariaTable W)) (table : Bytes) : Prop :=
  ∀ t, tables table = some t → t.keyColumn = utf8 "entry_key" ∧ t.valueColumn = utf8 "entry_value"

/-- A statement does on its table what it is for, and the columns stay. -/
theorem execute_statement (hcolumns : EntryColumns tables table) (statement : EntryStatement) :
    MariaTable.entries (MariaServer.execute collate tables (statement.statement table)).1 table =
      (statement.perform collate (MariaTable.entries tables table)).1 ∧
    (MariaServer.execute collate tables (statement.statement table)).2.result =
      (statement.perform collate (MariaTable.entries tables table)).2 ∧
    EntryColumns (MariaServer.execute collate tables (statement.statement table)).1 table := by
  unfold MariaTable.entries
  cases ht : tables table with
  | none =>
      cases statement with
      | create => simp [EntryStatement.statement, MariaServer.execute, EntryStatement.perform, QueryReply.result,
          EntryColumns, ht]
      | _ => simp [EntryStatement.statement, MariaServer.execute, EntryStatement.perform, QueryReply.result,
          MariaServer.noSuchTable, EntryColumns, ht]
  | some t =>
      obtain ⟨hkey, hvalue⟩ := hcolumns t ht
      cases statement with
      | create => simp [EntryStatement.statement, MariaServer.execute, EntryStatement.perform, QueryReply.result,
          EntryColumns, ht, hkey, hvalue]
      | toBinary => simp [EntryStatement.statement, MariaServer.execute, EntryStatement.perform, QueryReply.result,
          EntryColumns, ht, hkey, hvalue]
      | insert key value => simp [EntryStatement.statement, MariaServer.execute, EntryStatement.perform,
          QueryReply.result, EntryColumns, ht, hkey, hvalue]
      | select key =>
          cases hrow : t.rows (collate key) <;>
            simp [EntryStatement.statement, MariaServer.execute, EntryStatement.perform, QueryReply.result,
              EntryColumns, ht, hkey, hvalue, hrow]
      | delete key => simp [EntryStatement.statement, MariaServer.execute, EntryStatement.perform, QueryReply.result,
          EntryColumns, ht, hkey, hvalue]

/-- And it changes no other table. -/
theorem execute_statement_of_ne {table' : Bytes} (hne : table' ≠ table) (statement : EntryStatement) :
    (MariaServer.execute collate tables (statement.statement table)).1 table' = tables table' := by
  cases statement <;> simp only [EntryStatement.statement, MariaServer.execute]
  all_goals repeat' split
  all_goals first
    | rfl
    | exact Function.update_of_ne hne _ _

variable {configuration : ResolvedStorageConfiguration} {escape : Bytes → Bytes} {datasetName : String}

/-- A statement that reaches the server. -/
theorem send_executed (hescape : RealEscapeString escape)
    (htable : StorageService.entriesTable configuration datasetName = table) (hne : table ≠ [])
    (statement : EntryStatement) :
    StorageService.send configuration escape collate datasetName statement .executed tables =
      ((MariaServer.execute collate tables (statement.statement table)).1,
        (MariaServer.execute collate tables (statement.statement table)).2.result) := by
  have hname : NamesTable table := htable ▸ StorageService.namesTable
  simp only [StorageService.send, htable, if_neg hne, MariaServer.query, EntryStatement.cString_sql hescape hname,
    EntryStatement.ofTokens_sql hescape hname]

theorem send_of_ne (hescape : RealEscapeString escape)
    (hne : StorageService.entriesTable configuration datasetName ≠ table) (statement : EntryStatement) (fate : Fate) :
    (StorageService.send configuration escape collate datasetName statement fate tables).1 table = tables table := by
  by_cases hempty : StorageService.entriesTable configuration datasetName = []
  · simp only [StorageService.send, if_pos hempty]
  · cases fate with
    | failed message => simp only [StorageService.send, if_neg hempty]
    | executed =>
        rw [send_executed collate hescape rfl hempty]
        exact execute_statement_of_ne collate hne.symm statement

theorem send_failed (htable : StorageService.entriesTable configuration datasetName = table) (hne : table ≠ [])
    (statement : EntryStatement) (message : String) :
    StorageService.send configuration escape collate datasetName statement (.failed message) tables =
      (tables, .failure message, none) := by
  simp only [StorageService.send, htable, if_neg hne]

end Steps

/-! ## Any calls -/

section Calls

variable {W : Type} [DecidableEq W] (collate : Bytes → W) {configuration : ResolvedStorageConfiguration}
  {escape : Bytes → Bytes} {table : Bytes}

/-- The calls that are for this table. -/
def callsOf (configuration : ResolvedStorageConfiguration) (table : Bytes) (calls : List (String × EntryStatement × Fate)) :
    List (EntryStatement × Fate) :=
  (calls.filter fun call => StorageService.entriesTable configuration call.1 = table).map Prod.snd

/-- What those calls have returned. -/
def resultsOf (configuration : ResolvedStorageConfiguration) (table : Bytes)
    (calls : List (String × EntryStatement × Fate)) (results : List (Result × Option Bytes)) :
    List (Result × Option Bytes) :=
  ((calls.zip results).filter fun call => StorageService.entriesTable configuration call.1.1 = table).map Prod.snd

/-- Each table is as if its own calls were all there are. -/
theorem sendAll_table (hescape : RealEscapeString escape) (hne : table ≠ [])
    (calls : List (String × EntryStatement × Fate)) {tables : Bytes → Option (MariaTable W)}
    (hcolumns : EntryColumns tables table) :
    MariaTable.entries (StorageService.sendAll configuration escape collate calls tables).1 table =
      (EntryStatement.performAll collate (callsOf configuration table calls) (MariaTable.entries tables table)).1 ∧
    resultsOf configuration table calls (StorageService.sendAll configuration escape collate calls tables).2 =
      (EntryStatement.performAll collate (callsOf configuration table calls) (MariaTable.entries tables table)).2 := by
  induction calls generalizing tables with
  | nil => exact ⟨rfl, rfl⟩
  | cons call calls ih =>
      obtain ⟨datasetName, statement, fate⟩ := call
      by_cases htable : StorageService.entriesTable configuration datasetName = table
      · cases fate with
        | failed message =>
            have ih := ih hcolumns
            simp only [StorageService.sendAll, send_failed collate htable hne, callsOf, resultsOf, List.zip_cons_cons,
              List.filter_cons, htable, decide_true, if_true, List.map_cons, EntryStatement.performAll]
            exact ⟨ih.1, congrArg _ ih.2⟩
        | executed =>
            obtain ⟨hentries, hresult, hkept⟩ := execute_statement collate hcolumns statement
            have ih := ih hkept
            rw [hentries] at ih
            simp only [StorageService.sendAll, send_executed collate hescape htable hne, callsOf, resultsOf,
              List.zip_cons_cons, List.filter_cons, htable, decide_true, if_true, List.map_cons, EntryStatement.performAll, hresult]
            exact ⟨ih.1, congrArg _ ih.2⟩
      · have hsame : (StorageService.send configuration escape collate datasetName statement fate tables).1 table =
            tables table := send_of_ne collate hescape htable statement fate
        have hcolumns' : EntryColumns
            (StorageService.send configuration escape collate datasetName statement fate tables).1 table :=
          fun t ht => hcolumns t (hsame ▸ ht)
        have hentries : MariaTable.entries
            (StorageService.send configuration escape collate datasetName statement fate tables).1 table =
            MariaTable.entries tables table := by
          rw [MariaTable.entries, hsame, MariaTable.entries]
        have ih := ih hcolumns'
        rw [hentries] at ih
        simp only [StorageService.sendAll, callsOf, resultsOf, List.zip_cons_cons, List.filter_cons, htable,
          decide_false, Bool.false_eq_true, if_false]
        exact ih

/-- Whatever the keys and the values are, the text of each statement comes to the server whole and is read as that one
statement, with the table, the key and the value that it is for; and so the statements of any calls on any datasets do
to each table, and return, what its own calls do on a table of entries that has nothing else. The place that is made
for an escaped text has room for it. -/
theorem statements_exact (configuration : ResolvedStorageConfiguration) (hescape : RealEscapeString escape)
    {tables : Bytes → Option (MariaTable W)}
    (hcolumns : ∀ table, EntryColumns tables table) (calls : List (String × EntryStatement × Fate)) :
    (∀ text, (escape text).length + 1 ≤ text.length * 2 + 1) ∧
    (∀ datasetName (statement : EntryStatement),
      cString (statement.sql escape (StorageService.entriesTable configuration datasetName)) =
        statement.sql escape (StorageService.entriesTable configuration datasetName) ∧
      (tokens (statement.sql escape (StorageService.entriesTable configuration datasetName))).bind Statement.ofTokens =
        some (statement.statement (StorageService.entriesTable configuration datasetName))) ∧
    ∀ table, table ≠ [] →
      MariaTable.entries (StorageService.sendAll configuration escape collate calls tables).1 table =
        (EntryStatement.performAll collate (callsOf configuration table calls) (MariaTable.entries tables table)).1 ∧
      resultsOf configuration table calls (StorageService.sendAll configuration escape collate calls tables).2 =
        (EntryStatement.performAll collate (callsOf configuration table calls) (MariaTable.entries tables table)).2 := by
  refine ⟨hescape.length_le, fun datasetName statement => ⟨?_, ?_⟩, fun table hne => ?_⟩
  · exact EntryStatement.cString_sql hescape StorageService.namesTable
  · exact EntryStatement.ofTokens_sql hescape StorageService.namesTable
  · exact sendAll_table collate hescape hne calls (hcolumns table)

end Calls

/-! ## A key with an apostrophe -/

/-- What is written for a byte, in a connection with characters of one byte. -/
def escapedByte (b : UInt8) : Bytes :=
  match escapeCodes.lookup b with
  | some code => [backslash, code]
  | none => [b]

theorem escapedByte_escaped (b : UInt8) : EscapedByte b (escapedByte b) := by
  unfold escapedByte
  split
  · rename_i code hcode
    obtain ⟨before, after, hcodes, -⟩ := List.lookup_eq_some_iff.mp hcode
    exact .special (hcodes ▸ List.mem_append_right before List.mem_cons_self)
  · rename_i hnone
    refine .plain fun e he hb => ?_
    have hne := List.lookup_eq_none_iff.mp hnone e he
    rw [hb, bne_self_eq_false] at hne
    cases hne

theorem realEscapeString_flatMap : RealEscapeString (List.flatMap escapedByte) := by
  constructor
  intro text
  refine ⟨text.map escapedByte, ?_, List.flatMap_def⟩
  rw [List.forall₂_map_right_iff, List.forall₂_same]
  exact fun b _ => escapedByte_escaped b

/-- Two datasets on one server. -/
def twoDatasets : ResolvedStorageConfiguration :=
  (({} : ResolvedStorageConfiguration).addDataset
    ⟨"accounts", "default", "default", {}, {}, "a:", "acc_", "a:", ⟨1, 1, 1⟩⟩).addDataset
    ⟨"players", "default", "default", {}, {}, "p:", "player_", "p:", ⟨1, 1, 1⟩⟩

/-- A key that would end its literal, and a value with a zero. -/
def entersApostrophe : List (String × EntryStatement × Fate) :=
  [("accounts", .create, .executed), ("players", .create, .executed),
    ("accounts", .insert (utf8 "'); DELETE FROM `player_entries`; --") [0x00, 0x5C], .executed),
    ("players", .delete [0x27], .failed "gone away"),
    ("accounts", .select (utf8 "'); DELETE FROM `player_entries`; --"), .executed)]

theorem statements_exact_after :
    resultsOf twoDatasets (utf8 "acc_entries") entersApostrophe
      (StorageService.sendAll twoDatasets (List.flatMap escapedByte) id entersApostrophe fun _ => none).2 =
      [(⟨true, "OK"⟩, none), (⟨true, "OK"⟩, none), (⟨true, "OK"⟩, some [0x00, 0x5C])] := by
  have hcolumns : ∀ table, EntryColumns (W := Bytes) (fun _ => none) table := fun table t ht => by cases ht
  obtain ⟨-, -, htables⟩ := statements_exact id twoDatasets realEscapeString_flatMap hcolumns entersApostrophe
  rw [(htables (utf8 "acc_entries") (by decide)).2]
  rfl

end SomeServer
