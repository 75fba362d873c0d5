import BeetEsp.Foundation.CutShort
import BeetEsp.Net.MdnsRoundtrip

/-! # The grammar of DNS packets

Well-formed names, questions and records with their bytes on the wire, and how the
cursor of the reader moves over them, whole or cut short.
-/

namespace BeetEsp.Net.Mdns

open Foundation

/-! ## Names -/

/-- A label of 1 to 63 bytes. -/
structure Label where
  text : Str
  nonempty : text ≠ []
  short : text.length ≤ 63

def Label.bytes (label : Label) : List UInt8 := label.text.length.toUInt8 :: label.text

/-- What ends the labels of a name: the root label, or a compression pointer of two
bytes. -/
inductive NameEnd
  | root
  | pointer (first second : UInt8) (marked : first &&& 0xc0 = 0xc0)
  deriving DecidableEq

def NameEnd.bytes : NameEnd → List UInt8
  | root => [0]
  | pointer first second _ => [first, second]

structure Name where
  labels : List Label
  ending : NameEnd

def Name.bytes (name : Name) : List UInt8 :=
  name.labels.flatMap Label.bytes ++ name.ending.bytes

/-- These labels, but for ASCII case. -/
def SameLabels (labels : List Label) (parts : List Str) : Prop :=
  labels.map (fun label => label.text.map toAsciiLowercase) =
    parts.map (List.map toAsciiLowercase)

instance (labels : List Label) (parts : List Str) : Decidable (SameLabels labels parts) :=
  inferInstanceAs (Decidable (_ = _))

/-- The uncompressed name of two labels `<label>.local`, but for ASCII case. -/
def Name.Is (name : Name) (label : Str) : Prop :=
  name.ending = .root ∧ SameLabels name.labels [label, LOCAL]

instance (name : Name) (label : Str) : Decidable (name.Is label) :=
  inferInstanceAs (Decidable (_ ∧ _))

theorem sameLabels_cons {label : Label} {labels : List Label} {part : Str}
    {parts : List Str} :
    SameLabels (label :: labels) (part :: parts) ↔
      SameName label.text part ∧ SameLabels labels parts := by
  simp only [SameLabels, SameName, List.map_cons, List.cons.injEq]

theorem Label.lengthByte_toNat (label : Label) :
    label.text.length.toUInt8.toNat = label.text.length :=
  Mdns.lengthByte_toNat (Nat.le_trans label.short (by decide))

theorem Label.lengthByte_ne_zero (label : Label) : label.text.length.toUInt8 ≠ 0 := by
  intro zero
  have length := congrArg UInt8.toNat zero
  rw [label.lengthByte_toNat] at length
  exact label.nonempty (List.length_eq_zero_iff.mp length)

theorem lengthByte_reserved : ∀ length < 64, length.toUInt8 &&& 0xc0 = 0 := by
  decide +kernel

/-- The two top bits of a length byte are clear. -/
theorem Label.lengthByte_plain (label : Label) :
    label.text.length.toUInt8 &&& 0xc0 = 0 :=
  lengthByte_reserved _ (Nat.lt_succ_of_le label.short)

theorem Label.lengthByte_not_pointer (label : Label) :
    label.text.length.toUInt8 &&& 0xc0 ≠ 0xc0 := by
  rw [label.lengthByte_plain]
  decide

/-! ### Comparing a name -/

/-- The two bytes of a pointer. -/
theorem read_pointer (first second : UInt8) (before after : List UInt8) {whole : List UInt8}
    (split : whole = before ++ ([first, second] ++ after)) (fits : whole.length ≤ USIZE_MAX) :
    Read.u8 ⟨whole, before.length⟩ = (some first, ⟨whole, before.length + 1⟩) ∧
      Read.u8 ⟨whole, before.length + 1⟩ = (some second, ⟨whole, before.length + 2⟩) := by
  constructor
  · exact (Reads.u8 first).run before (second :: after) split rfl fits
  · exact (Reads.u8 second).run (before ++ [first]) after (by simp [split]) (by simp) fits

/-- A name that a pointer ends is read past the pointer and never matches. -/
theorem reads_pointer {expected : List Str} {idx : Nat} {first second : UInt8}
    (marked : first &&& 0xc0 = 0xc0) :
    Reads (Read.nameMatchesFrom expected idx) false [first, second] := by
  intro before after fits
  rcases read_pointer first second before after rfl fits with ⟨read, last⟩
  rw [nameMatchesFrom_pointer read marked, last]
  rfl

/-- What `name_matches` tells of the labels from one on: with `idx` labels consumed, the
rest is the rest of the expected ones. -/
theorem reads_labels {expected : List Str} (few : expected.length < USIZE_MAX)
    (labels : List Label) (ending : NameEnd) (idx : Nat) :
    Reads (Read.nameMatchesFrom expected idx)
      (decide (ending = .root ∧ idx ≤ expected.length ∧
        SameLabels labels (expected.drop idx)))
      (labels.flatMap Label.bytes ++ ending.bytes) := by
  induction labels generalizing idx with
  | nil =>
      cases ending with
      | root =>
          have last : (idx == expected.length) = decide (NameEnd.root = .root ∧
              idx ≤ expected.length ∧ SameLabels [] (expected.drop idx)) := by
            apply Bool.eq_iff_iff.mpr
            simp only [beq_iff_eq, decide_eq_true_eq, SameLabels, List.map_nil, true_and]
            rw [eq_comm (a := []), List.map_eq_nil_iff, List.drop_eq_nil_iff]
            omega
          rw [← last]
          exact reads_end
      | pointer first second marked =>
          rw [decide_eq_false (by simp)]
          exact reads_pointer marked
  | cons label labels induction =>
      rw [List.flatMap_cons, List.append_assoc]
      apply reads_label label.nonempty (Nat.le_trans label.short (by decide))
      by_cases matched : labelMatches expected idx label.text = true
      · rcases (labelMatches_iff _ _ _).mp matched with ⟨part, expectedPart, same⟩
        rcases List.getElem?_eq_some_iff.mp expectedPart with ⟨inside, equal⟩
        have next := induction (idx + 1)
        have rest : (idx ≤ expected.length ∧
            SameLabels (label :: labels) (expected.drop idx)) ↔
            idx + 1 ≤ expected.length ∧ SameLabels labels (expected.drop (idx + 1)) := by
          rw [List.drop_eq_getElem_cons inside, equal, sameLabels_cons]
          simp only [same, true_and]
          exact and_congr_left' ⟨fun _ => inside, fun _ => Nat.le_of_lt inside⟩
        rw [if_pos matched]
        simpa only [rest] using next
      · have next := induction USIZE_MAX
        have poisoned : ¬(idx ≤ expected.length ∧
            SameLabels (label :: labels) (expected.drop idx)) := by
          intro holds
          rcases holds with ⟨-, same⟩
          rcases shape : expected.drop idx with - | ⟨part, parts⟩
          · rw [shape] at same
            cases same
          · rw [shape, sameLabels_cons] at same
            have part_at : expected[idx]? = some part := by
              rw [← List.head?_drop, shape, List.head?_cons]
            exact matched ((labelMatches_iff _ _ _).mpr ⟨part, part_at, same.1⟩)
        rw [if_neg matched]
        rw [decide_eq_false (fun holds => absurd holds.2.1 (Nat.not_le.mpr few))] at next
        rw [decide_eq_false (fun holds => poisoned holds.2)]
        exact next

/-- `name_matches` reads a name to its end and tells whether it is `<label>.local`. -/
theorem reads_nameMatches (name : Name) (label : Str) :
    Reads (Read.nameMatches label) (decide (name.Is label)) name.bytes := by
  have few : [label, LOCAL].length < USIZE_MAX := by
    simp [USIZE_MAX]
  have is_name : (name.ending = .root ∧ 0 ≤ [label, LOCAL].length ∧
      SameLabels name.labels ([label, LOCAL].drop 0)) ↔ name.Is label := by
    simp [Name.Is]
  have reads := reads_labels few name.labels name.ending 0
  rwa [decide_eq_decide.mpr is_name] at reads

/-! ### A name that is cut short -/

theorem Label.length_bytes (label : Label) : label.bytes.length = label.text.length + 1 := by
  rw [bytes, List.length_cons]

/-- The length byte of a whole label, and the bytes it counts. -/
theorem Label.reads (label : Label) (before rest : List UInt8) {whole : List UInt8}
    (split : whole = before ++ (label.bytes ++ rest)) (fits : whole.length ≤ USIZE_MAX) :
    Read.u8 ⟨whole, before.length⟩ =
        (some label.text.length.toUInt8, ⟨whole, before.length + 1⟩) ∧
      Read.skip label.text.length.toUInt8.toNat ⟨whole, before.length + 1⟩ =
        (some (), ⟨whole, (before ++ label.bytes).length⟩) := by
  have start : before.length + 1 + label.text.length = (before ++ label.bytes).length := by
    rw [List.length_append, label.length_bytes]
    omega
  constructor
  · exact (Reads.u8 _).run before (label.text ++ rest) split rfl fits
  · rw [label.lengthByte_toNat, ← start]
    exact (Reads.skip label.text).run (before ++ [label.text.length.toUInt8]) rest
      (by rw [split, Label.bytes]; simp) (List.length_append ..) fits

/-- A label in a buffer that may end anywhere: its length byte is missing, or the bytes
it counts are not all there, or it is whole. -/
theorem read_label (label : Label) (rest before : List UInt8) {length : Nat}
    {whole : List UInt8} (cut : whole = before ++ (label.bytes ++ rest).take length)
    (fits : whole.length ≤ ISIZE_MAX) :
    Read.u8 ⟨whole, before.length⟩ = (none, ⟨whole, before.length⟩) ∧ length = 0 ∨
    Read.u8 ⟨whole, before.length⟩ =
        (some label.text.length.toUInt8, ⟨whole, before.length + 1⟩) ∧
      (Read.skip label.text.length.toUInt8.toNat ⟨whole, before.length + 1⟩ =
          (none, ⟨whole, before.length + 1 + label.text.length⟩) ∧
        length < label.bytes.length ∨
      Read.skip label.text.length.toUInt8.toNat ⟨whole, before.length + 1⟩ =
          (some (), ⟨whole, (before ++ label.bytes).length⟩) ∧
        label.bytes.length ≤ length ∧
        whole = (before ++ label.bytes) ++ rest.take (length - label.bytes.length)) := by
  have usize := fits_of_le_isize fits
  have size := label.length_bytes
  cases length with
  | zero =>
      refine .inl ⟨?_, rfl⟩
      apply Read.u8_exhausted
      rw [cut, List.take_zero, List.append_nil]
      exact Nat.le_refl _
  | succ length =>
      refine .inr ⟨?_, ?_⟩
      · exact (Reads.u8 _).run before ((label.text ++ rest).take length)
          (by rw [cut]; rfl) rfl usize
      · by_cases early : length + 1 < label.bytes.length
        · refine .inl ⟨?_, early⟩
          have inBuffer : whole.length ≤ before.length + (length + 1) := by
            rw [cut, List.length_append]
            exact Nat.add_le_add_left (List.length_take_le _ _) _
          have start : before.length ≤ whole.length := by
            rw [cut, List.length_append]
            exact Nat.le_add_right _ _
          have short := label.short
          have noOverflow : ¬USIZE_MAX < before.length + 1 + label.text.length := by
            have bounds : ISIZE_MAX + 64 ≤ USIZE_MAX := by decide
            omega
          have past : whole.length < before.length + 1 + label.text.length := by omega
          rw [label.lengthByte_toNat]
          simp only [Read.skip, if_neg noOverflow, if_pos past]
        · have enough := Nat.le_of_not_lt early
          have split : whole = before ++ label.bytes ++
              rest.take (length + 1 - label.bytes.length) := by
            rw [cut, List.take_append, List.take_of_length_le enough, List.append_assoc]
          rw [List.append_assoc] at split
          exact .inr ⟨(label.reads before _ split usize).2, enough,
            split.trans (List.append_assoc ..).symm⟩

/-- The end of a name in a buffer that ends inside it: nothing is left, or the first byte
of a pointer. -/
theorem NameEnd.read_cut (ending : NameEnd) (before : List UInt8) {length : Nat}
    {whole : List UInt8} (cut : whole = before ++ ending.bytes.take length)
    (inside : length < ending.bytes.length) (fits : whole.length ≤ ISIZE_MAX) :
    Cursor.Exhausted ⟨whole, before.length⟩ ∨
      ∃ first, first &&& 0xc0 = 0xc0 ∧
        Read.u8 ⟨whole, before.length⟩ = (some first, ⟨whole, before.length + 1⟩) ∧
        Cursor.Exhausted ⟨whole, before.length + 1⟩ := by
  cases length with
  | zero =>
      refine .inl ?_
      simp [Cursor.Exhausted, cut]
  | succ length =>
      cases ending with
      | root => simp [NameEnd.bytes] at inside
      | pointer first second marked =>
          have one : length = 0 := by
            simp only [NameEnd.bytes, List.length_cons, List.length_nil] at inside
            omega
          subst one
          have split : whole = before ++ ([first] ++ []) := cut
          refine .inr ⟨first, marked, ?_, ?_⟩
          · exact (Reads.u8 first).run before [] split rfl (fits_of_le_isize fits)
          · simp [Cursor.Exhausted, split]

/-- Where the name is cut short, `name_matches` reaches the end of the buffer. -/
theorem exhausts_labels {expected : List Str} (labels : List Label) (ending : NameEnd)
    (idx : Nat) :
    Exhausts (Read.nameMatchesFrom expected idx)
      (labels.flatMap Label.bytes ++ ending.bytes) := by
  induction labels generalizing idx with
  | nil =>
      intro before length inside fits
      rcases ending.read_cut before rfl inside fits with
        exhausted | ⟨first, marked, read, exhausted⟩
      · rw [List.flatMap_nil, List.nil_append,
          nameMatchesFrom_exhausted (Read.u8_exhausted exhausted)]
        exact exhausted
      · rw [List.flatMap_nil, List.nil_append, nameMatchesFrom_pointer read marked,
          Read.u8_exhausted exhausted]
        exact exhausted
  | cons label labels induction =>
      intro before length inside fits
      rw [List.flatMap_cons, List.append_assoc] at inside fits ⊢
      generalize shape : before ++ (label.bytes ++ (labels.flatMap Label.bytes ++
        ending.bytes)).take length = whole at fits ⊢
      rcases read_label label _ before shape.symm fits with
        ⟨none, empty⟩ | ⟨read, ⟨skipped, early⟩ | ⟨skipped, enough, split⟩⟩
      · rw [nameMatchesFrom_exhausted none]
        rw [← shape, empty]
        simp [Cursor.Exhausted]
      · rw [nameMatchesFrom_cut read label.lengthByte_not_pointer label.lengthByte_ne_zero
          skipped]
        have size := label.length_bytes
        rw [← shape, Cursor.Exhausted]
        simp only [List.length_append, List.length_take]
        omega
      · rw [nameMatchesFrom_label read label.lengthByte_not_pointer label.lengthByte_ne_zero
          skipped]
        have rest : length - label.bytes.length <
            (labels.flatMap Label.bytes ++ ending.bytes).length := by
          rw [List.length_append] at inside
          omega
        rw [split] at fits ⊢
        exact induction _ (before ++ label.bytes) _ rest fits

theorem exhausts_nameMatches (name : Name) (label : Str) :
    Exhausts (Read.nameMatches label) name.bytes :=
  exhausts_labels name.labels name.ending 0

/-! ### Skipping a name -/

section

variable {cursor afterLen after : Cursor} {len : UInt8}

theorem skipName_exhausted (read : Read.u8 cursor = (none, after)) :
    Read.skipName cursor = (none, after) := by
  rw [Read.skipName]
  split
  · rename_i found
    rw [read, Prod.mk.injEq] at found
    rcases found with ⟨-, rfl⟩
    rfl
  · simp_all

/-- One turn of the loop, with its first byte. -/
theorem skipName_turn (read : Read.u8 cursor = (some len, afterLen)) :
    Read.skipName cursor =
      if len &&& 0xc0 = 0xc0 then
        ((Read.u8 afterLen).1.map fun _ => (), (Read.u8 afterLen).2)
      else if len &&& 0xc0 = 0 then
        if len = 0 then (some (), afterLen)
        else (Read.skip len.toNat >>= fun _ => Read.skipName) afterLen
      else (none, afterLen) := by
  rw [Read.skipName]
  split
  · simp_all
  · rename_i found
    rw [read, Prod.mk.injEq, Option.some.injEq] at found
    rcases found with ⟨rfl, rfl⟩
    by_cases pointer : len &&& 0xc0 = 0xc0
    · rw [if_pos pointer, if_pos pointer]
      split
      all_goals
        rename_i last
        rw [last]
        rfl
    · rw [if_neg pointer, if_neg pointer]
      by_cases clear : len &&& 0xc0 = 0
      · rw [if_pos clear, if_pos clear]
        by_cases ending : len = 0
        · rw [if_pos ending, if_pos ending]
        · rw [if_neg ending, if_neg ending]
          split
          · rename_i skipped
            rw [Read.bind_some skipped]
          · rename_i skipped
            rw [Read.bind_fails skipped]
      · rw [if_neg clear, if_neg clear]

theorem skipName_pointer (read : Read.u8 cursor = (some len, afterLen))
    (pointer : len &&& 0xc0 = 0xc0) :
    Read.skipName cursor = ((Read.u8 afterLen).1.map fun _ => (), (Read.u8 afterLen).2) := by
  rw [skipName_turn read, if_pos pointer]

theorem skipName_end (read : Read.u8 cursor = (some 0, after)) :
    Read.skipName cursor = (some (), after) := by
  rw [skipName_turn read]
  rfl

theorem skipName_past (read : Read.u8 cursor = (some len, afterLen))
    (plain : len &&& 0xc0 = 0) (nonzero : len ≠ 0) :
    Read.skipName cursor = (Read.skip len.toNat >>= fun _ => Read.skipName) afterLen := by
  rw [skipName_turn read, if_neg (by rw [plain]; decide), if_pos plain, if_neg nonzero]

theorem skipName_cut (read : Read.u8 cursor = (some len, afterLen))
    (plain : len &&& 0xc0 = 0) (nonzero : len ≠ 0)
    (skipped : Read.skip len.toNat afterLen = (none, after)) :
    Read.skipName cursor = (none, after) := by
  rw [skipName_past read plain nonzero, Read.bind_fails skipped]

theorem skipName_reserved (read : Read.u8 cursor = (some len, after))
    (plain : len &&& 0xc0 ≠ 0xc0) (reserved : len &&& 0xc0 ≠ 0) :
    Read.skipName cursor = (none, after) := by
  rw [skipName_turn read, if_neg plain, if_neg reserved]

theorem skipName_label (read : Read.u8 cursor = (some len, afterLen))
    (plain : len &&& 0xc0 = 0) (nonzero : len ≠ 0)
    (skipped : Read.skip len.toNat afterLen = (some (), after)) :
    Read.skipName cursor = Read.skipName after := by
  rw [skipName_past read plain nonzero, Read.bind_some skipped]

end

theorem reads_skipName_labels (labels : List Label) (ending : NameEnd) :
    Reads Read.skipName () (labels.flatMap Label.bytes ++ ending.bytes) := by
  induction labels with
  | nil =>
      intro before after fits
      cases ending with
      | root => exact skipName_end (Reads.u8 0 before after fits)
      | pointer first second marked =>
          rcases read_pointer first second before after rfl fits with ⟨read, last⟩
          change Read.skipName ⟨before ++ ([first, second] ++ after), before.length⟩ = _
          rw [skipName_pointer read marked, last]
          rfl
  | cons label labels induction =>
      intro before after fits
      rw [List.flatMap_cons, List.append_assoc, List.append_assoc] at fits ⊢
      rcases label.reads before _ rfl fits with ⟨read, skipped⟩
      rw [skipName_label read label.lengthByte_plain label.lengthByte_ne_zero skipped]
      have rest := induction.run (before ++ label.bytes) after
        (by simp only [List.append_assoc]) rfl fits
      rw [rest]
      simp only [List.length_append, Nat.add_assoc]

theorem starves_skipName_labels (labels : List Label) (ending : NameEnd) :
    Starves Read.skipName (labels.flatMap Label.bytes ++ ending.bytes) := by
  induction labels with
  | nil =>
      intro before length inside fits
      rcases ending.read_cut before rfl inside fits with
        exhausted | ⟨first, marked, read, exhausted⟩
      · rw [List.flatMap_nil, List.nil_append,
          skipName_exhausted (Read.u8_exhausted exhausted)]
      · rw [List.flatMap_nil, List.nil_append, skipName_pointer read marked,
          Read.u8_exhausted exhausted]
        rfl
  | cons label labels induction =>
      intro before length inside fits
      rw [List.flatMap_cons, List.append_assoc] at inside fits ⊢
      generalize shape : before ++ (label.bytes ++ (labels.flatMap Label.bytes ++
        ending.bytes)).take length = whole at fits ⊢
      rcases read_label label _ before shape.symm fits with
        ⟨none, -⟩ | ⟨read, ⟨skipped, -⟩ | ⟨skipped, enough, split⟩⟩
      · rw [skipName_exhausted none]
      · rw [skipName_cut read label.lengthByte_plain label.lengthByte_ne_zero skipped]
      · rw [skipName_label read label.lengthByte_plain label.lengthByte_ne_zero skipped]
        have rest : length - label.bytes.length <
            (labels.flatMap Label.bytes ++ ending.bytes).length := by
          rw [List.length_append] at inside
          omega
        rw [split] at fits ⊢
        exact induction (before ++ label.bytes) _ rest fits

theorem reads_skipName (name : Name) : Reads Read.skipName () name.bytes :=
  reads_skipName_labels name.labels name.ending

theorem starves_skipName (name : Name) : Starves Read.skipName name.bytes :=
  starves_skipName_labels name.labels name.ending

/-! ## Headers -/

structure Header where
  id : UInt16
  flags : UInt16
  qdcount : UInt16
  ancount : UInt16
  nscount : UInt16
  arcount : UInt16

def Header.bytes (header : Header) : List UInt8 :=
  u16Bytes header.id ++ u16Bytes header.flags ++ u16Bytes header.qdcount ++
    u16Bytes header.ancount ++ u16Bytes header.nscount ++ u16Bytes header.arcount

/-- The QR bit is clear. -/
def Header.IsQuery (header : Header) : Prop := header.flags &&& 0x8000 = 0

instance (header : Header) : Decidable header.IsQuery :=
  inferInstanceAs (Decidable (_ = _))

@[simp] theorem Header.length_bytes (header : Header) : header.bytes.length = 12 := rfl

theorem Reader.new_header (header : Header) (body : List UInt8) :
    Reader.new (header.bytes ++ body) = some
      { buf := header.bytes ++ body
        pos := 12
        flags := header.flags
        qdcount := header.qdcount
        ancount := header.ancount } := by
  change some (Reader.mk ⟨_, 12⟩ (beU16 _ _) (beU16 _ _) (beU16 _ _)) = _
  simp only [beU16_bytes]
  rfl

/-- A packet with a header, read by `is_query_for`. -/
theorem isQueryFor_header {packet body : List UInt8} {header : Header}
    (whole : packet = header.bytes ++ body) (hostname : Str) :
    isQueryFor packet hostname =
      if header.IsQuery then matchesQuestion hostname header.qdcount.toNat ⟨packet, 12⟩
      else false := by
  rw [whole, isQueryFor_of_new (Reader.new_header header body), ite_not]
  rfl

/-- A packet with a header, read by `parse_answer`. -/
theorem parseAnswer_header {packet body : List UInt8} {header : Header}
    (whole : packet = header.bytes ++ body) (label : Str) :
    parseAnswer packet label =
      if header.IsQuery then none
      else ((do
        Read.questions header.qdcount.toNat
        Read.answers label header.ancount.toNat) ⟨packet, 12⟩).1 := by
  rw [whole, parseAnswer_of_new (Reader.new_header header body)]
  rfl

theorem Reader.new_short {packet : List UInt8} (short : packet.length < 12) :
    Reader.new packet = none := by
  rw [Reader.new]
  intro _ _ _ _ _ _ _ _ _ _ _ _ _ shape
  rw [shape] at short
  simp only [List.length_cons] at short
  omega

/-- A packet cut short after `length` bytes has its header or is refused. -/
theorem Reader.new_take (header : Header) (body : List UInt8) (length : Nat) :
    length < 12 ∧ Reader.new ((header.bytes ++ body).take length) = none ∨
      12 ≤ length ∧ (header.bytes ++ body).take length =
        header.bytes ++ body.take (length - 12) := by
  by_cases short : length < 12
  · refine .inl ⟨short, Reader.new_short ?_⟩
    exact Nat.lt_of_le_of_lt (List.length_take_le ..) short
  · refine .inr ⟨Nat.le_of_not_lt short, ?_⟩
    rw [List.take_append, header.length_bytes,
      List.take_of_length_le (by simpa using short)]

end BeetEsp.Net.Mdns
