import BeetEsp.Foundation.ByteCursor
import BeetEsp.Net.HttpClient

/-! # DNS wire format

The minimal subset of the DNS wire format for single-label `.local` `A` records:
the packets `mdns_task` and the browsers build, and what they read back from
packets off the wire. A `&str` is the list of its bytes.
-/

namespace BeetEsp.Net.Mdns

open Foundation

abbrev Str := List UInt8

def TYPE_A : UInt16 := 1

def CLASS_IN : UInt16 := 1

/-- Masks the cache-flush and unicast-response bit off `CLASS`. -/
def CLASS_MASK : UInt16 := 0x7fff

/-- `"local"` -/
def LOCAL : Str := [0x6c, 0x6f, 0x63, 0x61, 0x6c]

namespace Ipv4Address

def new (a b c d : UInt8) : Ipv4Address := beU32 a b c d

def octets (ip : Ipv4Address) : List UInt8 :=
  [(ip >>> 24).toUInt8, (ip >>> 16).toUInt8, (ip >>> 8).toUInt8, ip.toUInt8]

end Ipv4Address

def toAsciiLowercase (byte : UInt8) : UInt8 :=
  if 0x41 ≤ byte ∧ byte ≤ 0x5a then byte + 0x20 else byte

def eqIgnoreAsciiCase (left right : UInt8) : Bool :=
  toAsciiLowercase left == toAsciiLowercase right

/-- Equal strings but for ASCII case. -/
def SameName (left right : Str) : Prop :=
  left.map toAsciiLowercase = right.map toAsciiLowercase

instance (left right : Str) : Decidable (SameName left right) :=
  inferInstanceAs (Decidable (_ = _))

/-! ## Building packets -/

/-- A label must be `1..=63` bytes. -/
def Write.label (part : Str) : Write :=
  if part = [] ∨ 63 < part.length then Write.fail
  else do
    Write.u8 part.length.toUInt8
    Write.bytes part

/-- `<label>.local` as DNS labels terminated by a zero byte. -/
def Write.name (label : Str) : Write := do
  [label, LOCAL].forM Write.label
  Write.u8 0

/-- The length written and the buffer it is written in. -/
def Write.finish (write : Write) (buf : List UInt8) : Option (Nat × List UInt8) :=
  (write ⟨buf, 0⟩).map fun (_, writer) => (writer.pos, writer.buf)

def Write.query (label : Str) : Write := do
  Write.u16 0
  Write.u16 0
  Write.u16 1
  Write.u16 0
  Write.u16 0
  Write.u16 0
  Write.name label
  Write.u16 TYPE_A
  Write.u16 CLASS_IN

/-- A multicast `A` query for `label.local`. -/
def buildQuery (buf : List UInt8) (label : Str) : Option (Nat × List UInt8) :=
  Write.finish (Write.query label) buf

def Write.answer (label : Str) (ip : Ipv4Address) : Write := do
  Write.u16 0
  Write.u16 0x8400
  Write.u16 0
  Write.u16 1
  Write.u16 0
  Write.u16 0
  Write.name label
  Write.u16 TYPE_A
  Write.u16 (0x8000 ||| CLASS_IN)
  Write.u32 120
  Write.u16 4
  Write.bytes (Ipv4Address.octets ip)

/-- An `A` answer advertising `label.local -> ip`. -/
def buildAnswer (buf : List UInt8) (label : Str) (ip : Ipv4Address) :
    Option (Nat × List UInt8) :=
  Write.finish (Write.answer label ip) buf

/-! ## Reading packets -/

structure Reader extends Cursor where
  flags : UInt16
  qdcount : UInt16
  ancount : UInt16

/-- Parse the 12-byte header, leaving the cursor at the first question. -/
def Reader.new : List UInt8 → Option Reader
  | id0 :: id1 :: flags0 :: flags1 :: qd0 :: qd1 :: an0 :: an1 :: ns0 :: ns1 :: ar0 :: ar1
      :: body => some
    { buf := id0 :: id1 :: flags0 :: flags1 :: qd0 :: qd1 :: an0 :: an1 :: ns0 :: ns1 ::
        ar0 :: ar1 :: body
      pos := 12
      flags := beU16 flags0 flags1
      qdcount := beU16 qd0 qd1
      ancount := beU16 an0 an1 }
  | _ => none

/-- Advance past a name, or past the compression pointer that ends it. -/
def Read.skipName : Read Unit := fun cursor =>
  match _ : Read.u8 cursor with
  | (none, cursor) => (none, cursor)
  | (some len, cursor) =>
    if len &&& 0xc0 = 0xc0 then
      match Read.u8 cursor with
      | (some _, cursor) => (some (), cursor)
      | (none, cursor) => (none, cursor)
    else if len &&& 0xc0 = 0 then
      if len = 0 then (some (), cursor)
      else
        match _ : Read.skip len.toNat cursor with
        | (some (), cursor) => Read.skipName cursor
        | (none, cursor) => (none, cursor)
    else (none, cursor)
termination_by cursor => cursor.buf.length - cursor.pos
decreasing_by exact Read.remaining_lt (by assumption) (by assumption)

/-- The label `got` is the expected label of this index. -/
def labelMatches (expected : List Str) (idx : Nat) (got : Str) : Bool :=
  match expected[idx]? with
  | some part =>
    part.length == got.length && (got.zip part).all fun (a, b) => eqIgnoreAsciiCase a b
  | none => false

/-- The loop of `name_matches`, with `idx` labels consumed. A label that is not
the expected one poisons `idx`, which then never equals the number of labels. -/
def Read.nameMatchesFrom (expected : List Str) (idx : Nat) : Read Bool := fun cursor =>
  match _ : Read.u8 cursor with
  | (none, cursor) => (some false, cursor)
  | (some len, cursor) =>
    if len &&& 0xc0 = 0xc0 then (some false, (Read.u8 cursor).2)
    else if len = 0 then (some (idx == expected.length), cursor)
    else
      let start := cursor.pos
      match _ : Read.skip len.toNat cursor with
      | (none, cursor) => (some false, cursor)
      | (some (), cursor) =>
        let got := cursor.buf.extract start (start + len.toNat)
        Read.nameMatchesFrom expected
          (if labelMatches expected idx got then idx + 1 else USIZE_MAX) cursor
termination_by cursor => cursor.buf.length - cursor.pos
decreasing_by exact Read.remaining_lt (by assumption) (by assumption)

/-- Whether the name at the cursor is `<label>.local`, but for ASCII case. -/
def Read.nameMatches (label : Str) : Read Bool :=
  Read.nameMatchesFrom [label, LOCAL] 0

/-! ### One turn of the loop of `name_matches` -/

section

variable {expected : List Str} {idx : Nat} {cursor afterLen after : Cursor} {len : UInt8}

theorem nameMatchesFrom_exhausted (read : Read.u8 cursor = (none, after)) :
    Read.nameMatchesFrom expected idx cursor = (some false, after) := by
  rw [Read.nameMatchesFrom]
  split
  · rename_i found
    rw [read, Prod.mk.injEq] at found
    rcases found with ⟨-, rfl⟩
    rfl
  · simp_all

/-- With the first byte read. -/
theorem nameMatchesFrom_turn (read : Read.u8 cursor = (some len, afterLen)) :
    Read.nameMatchesFrom expected idx cursor =
      if len &&& 0xc0 = 0xc0 then (some false, (Read.u8 afterLen).2)
      else if len = 0 then (some (idx == expected.length), afterLen)
      else if (Read.skip len.toNat afterLen).1 = none then
        (some false, (Read.skip len.toNat afterLen).2)
      else
        Read.nameMatchesFrom expected
          (if labelMatches expected idx ((Read.skip len.toNat afterLen).2.buf.extract
            afterLen.pos (afterLen.pos + len.toNat)) then idx + 1 else USIZE_MAX)
          (Read.skip len.toNat afterLen).2 := by
  rw [Read.nameMatchesFrom]
  split
  · simp_all
  · rename_i found
    rw [read, Prod.mk.injEq, Option.some.injEq] at found
    rcases found with ⟨rfl, rfl⟩
    by_cases pointer : len &&& 0xc0 = 0xc0
    · rw [if_pos pointer, if_pos pointer]
    · by_cases ending : len = 0
      · rw [if_neg pointer, if_neg pointer, if_pos ending, if_pos ending]
      · rw [if_neg pointer, if_neg pointer, if_neg ending, if_neg ending]
        split
        · rename_i skipped
          rw [skipped, if_pos rfl]
        · rename_i skipped
          rw [skipped, if_neg (by simp)]

theorem nameMatchesFrom_pointer (read : Read.u8 cursor = (some len, afterLen))
    (pointer : len &&& 0xc0 = 0xc0) :
    Read.nameMatchesFrom expected idx cursor = (some false, (Read.u8 afterLen).2) := by
  rw [nameMatchesFrom_turn read, if_pos pointer]

theorem nameMatchesFrom_end (read : Read.u8 cursor = (some 0, after)) :
    Read.nameMatchesFrom expected idx cursor = (some (idx == expected.length), after) := by
  rw [nameMatchesFrom_turn read]
  rfl

theorem nameMatchesFrom_cut (read : Read.u8 cursor = (some len, afterLen))
    (plain : len &&& 0xc0 ≠ 0xc0) (nonzero : len ≠ 0)
    (skipped : Read.skip len.toNat afterLen = (none, after)) :
    Read.nameMatchesFrom expected idx cursor = (some false, after) := by
  rw [nameMatchesFrom_turn read, if_neg plain, if_neg nonzero, skipped, if_pos rfl]

theorem nameMatchesFrom_label (read : Read.u8 cursor = (some len, afterLen))
    (plain : len &&& 0xc0 ≠ 0xc0) (nonzero : len ≠ 0)
    (skipped : Read.skip len.toNat afterLen = (some (), after)) :
    Read.nameMatchesFrom expected idx cursor =
      Read.nameMatchesFrom expected
        (if labelMatches expected idx
          (after.buf.extract afterLen.pos (afterLen.pos + len.toNat)) then idx + 1
          else USIZE_MAX) after := by
  rw [nameMatchesFrom_turn read, if_neg plain, if_neg nonzero, skipped, if_neg (by simp)]

end

def matchesQuestion (hostname : Str) : Nat → Cursor → Bool
  | 0, _ => false
  | count + 1, cursor =>
    let (matched, cursor) := Read.nameMatches hostname cursor
    let (qtype, cursor) := Read.u16 cursor
    let (qclass, cursor) := Read.u16 cursor
    match qtype, qclass with
    | some qtype, some qclass =>
      if matched = some true ∧ qtype = TYPE_A ∧ qclass &&& CLASS_MASK = CLASS_IN then true
      else matchesQuestion hostname count cursor
    | _, _ => false

/-- Is `pkt` a query with a question `hostname.local` of type `A`? -/
def isQueryFor (pkt : List UInt8) (hostname : Str) : Bool :=
  match Reader.new pkt with
  | none => false
  | some reader =>
    if reader.flags &&& 0x8000 ≠ 0 then false
    else matchesQuestion hostname reader.qdcount.toNat reader.toCursor

def Read.questions : Nat → Read Unit
  | 0 => pure ()
  | count + 1 => do
    Read.skipName
    let _qtype ← Read.u16
    let _qclass ← Read.u16
    Read.questions count

/-- The address of the first `A` record for the label. -/
def Read.answers (label : Str) : Nat → Read Ipv4Address
  | 0 => Read.fail
  | count + 1 => do
    let matched ← Read.nameMatches label
    let rtype ← Read.u16
    let _rclass ← Read.u16
    let _ttl ← Read.u32
    let rdlen ← Read.u16
    if matched = true ∧ rtype = TYPE_A ∧ rdlen.toNat = 4 then
      let a ← Read.u8
      let b ← Read.u8
      let c ← Read.u8
      let d ← Read.u8
      return Ipv4Address.new a b c d
    else
      Read.skip rdlen.toNat
      Read.answers label count

/-- The address a response carries for `label.local`. -/
def parseAnswer (pkt : List UInt8) (label : Str) : Option Ipv4Address := do
  let reader ← Reader.new pkt
  if reader.flags &&& 0x8000 = 0 then none
  else
    let scan := do
      Read.questions reader.qdcount.toNat
      Read.answers label reader.ancount.toNat
    (scan reader.toCursor).1

end BeetEsp.Net.Mdns
