import EntityMap.Text.Printable
import EntityMap.Value.Basic

/-!
# Displays of values

`Value.display` is the text that messages show for a value, and `Value.literal` the text that
shows it as a part of another or as a literal: there texts and bytes stand in quotes, with
escapes for whatever cannot be shown. Quotes are single unless the text holds a single one and no
double one (`quoteFor`).
-/

namespace EntityMap

open Number Text Time

/-! ## Quotes and escapes -/

/-- The quote around a display. -/
def quoteFor (cs : List Char) : Char :=
  if cs.contains '\'' && !cs.contains '"' then '"' else '\''

/-- A number in base 16, with at least so many digits. -/
def hexDigits (width n : Nat) : List Char :=
  let ds := Nat.toDigits 16 n
  List.replicate (width - ds.length) '0' ++ ds

/-- The escapes that quoted texts and quoted bytes share. -/
def sharedEscape? (quote c : Char) : Option (List Char) :=
  if c = quote ∨ c = '\\' then some ['\\', c]
  else if c = '\t' then some ['\\', 't']
  else if c = '\n' then some ['\\', 'n']
  else if c = '\r' then some ['\\', 'r']
  else none

/-- A character between quotes. -/
def escapeChar (quote c : Char) : List Char :=
  match sharedEscape? quote c with
  | some cs => cs
  | none =>
    if isPrintable c then [c]
    else if c.toNat < 0x100 then '\\' :: 'x' :: hexDigits 2 c.toNat
    else if c.toNat < 0x10000 then '\\' :: 'u' :: hexDigits 4 c.toNat
    else '\\' :: 'U' :: hexDigits 8 c.toNat

/-- A byte between quotes. -/
def escapeByte (quote : Char) (b : UInt8) : List Char :=
  let c := Char.ofNat b.toNat
  match sharedEscape? quote c with
  | some cs => cs
  | none => if 32 ≤ b.toNat ∧ b.toNat < 127 then [c] else '\\' :: 'x' :: hexDigits 2 b.toNat

/-- A text in quotes. -/
def quotedText (s : String) : String :=
  let q := quoteFor s.toList
  String.ofList (q :: (s.toList.flatMap (escapeChar q) ++ [q]))

/-- The quote around a display of bytes. -/
def byteQuote (bs : List UInt8) : Char := quoteFor (bs.map fun b => Char.ofNat b.toNat)

/-- Bytes in quotes. -/
def quotedBytes (bs : List UInt8) : String :=
  let q := byteQuote bs
  String.ofList ('b' :: q :: (bs.flatMap (escapeByte q) ++ [q]))

/-- Bytes that can be changed. A single quote is escaped between double ones too. -/
def bufferLiteral (bs : List UInt8) : String :=
  let q := byteQuote bs
  "bytearray(" ++ String.ofList ('b' :: q :: (bs.flatMap (escapeByte '\'') ++ [q])) ++ ")"

/-! ## Moments -/

/-- A clock's distance from universal time as a literal. -/
def offsetLiteral (offset : Int) : String :=
  let days := offset.fdiv 86400
  let seconds := offset - days * 86400
  if offset = 0 then "datetime.timezone.utc"
  else
    "datetime.timezone(datetime.timedelta("
      ++ ", ".intercalate ((if days = 0 then [] else ["days=" ++ toString days])
        ++ (if seconds = 0 then [] else ["seconds=" ++ toString seconds]))
      ++ "))"

/-- A moment as a literal: seconds and microseconds are left out when they and all after them are
zero. -/
def momentLiteral (t : Moment) : String :=
  let d := t.date
  let s := t.secondOfDay
  let fields := [d.year, d.month, d.day, s / 3600, s / 60 % 60]
    ++ (if s % 60 = 0 ∧ t.micros = 0 then []
      else if t.micros = 0 then [(s % 60 : Int)] else [(s % 60 : Int), (t.micros : Int)])
  "datetime.datetime(" ++ ", ".intercalate (fields.map toString)
    ++ (t.offset.elim "" fun o => ", tzinfo=" ++ offsetLiteral o) ++ ")"

/-! ## Values -/

mutual

/-- A value as a part of another; `entity` shows a record. -/
def Value.literal (entity : Nat → String) : Value → String
  | .null => "None"
  | .bool b => if b then "True" else "False"
  | .int i => toString i
  | .real x => x.text
  | .text s => quotedText s
  | .bytes bs => quotedBytes bs
  | .buffer bs => bufferLiteral bs
  | .moment t => momentLiteral t
  | .list xs => "[" ++ ", ".intercalate (Value.literals entity xs) ++ "]"
  | .mapping es => "\x7b" ++ ", ".intercalate (Value.entryLiterals entity es) ++ "\x7d"
  | .plain => "<object>"
  | .entity ref => entity ref

/-- The displays of a list's values. -/
def Value.literals (entity : Nat → String) : List Value → List String
  | [] => []
  | v :: vs => v.literal entity :: Value.literals entity vs

/-- The displays of a mapping's entries. -/
def Value.entryLiterals (entity : Nat → String) : List (Value × Value) → List String
  | [] => []
  | (k, v) :: es => (k.literal entity ++ ": " ++ v.literal entity) :: Value.entryLiterals entity es

end

/-- A value as a message shows it: texts and moments without quotes. -/
def Value.display (entity : Nat → String) : Value → String
  | .text s => s
  | .moment t => t.text
  | v => v.literal entity

end EntityMap
