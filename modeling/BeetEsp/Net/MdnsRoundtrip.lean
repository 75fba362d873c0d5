import BeetEsp.Net.Mdns

/-! # Round trip of the mDNS packets

What the builders lay out, and what the readers make of it: a name is read back as
the name it was built from but for ASCII case, and a query is never taken for an
answer nor an answer for a query.
-/

namespace BeetEsp.Net.Mdns

open Foundation

/-! ## Names -/

/-- `<label>.local` on the wire. -/
def nameBytes (label : Str) : List UInt8 :=
  (label.length.toUInt8 :: label) ++ ((LOCAL.length.toUInt8 :: LOCAL) ++ [0])

theorem length_nameBytes (label : Str) : (nameBytes label).length = label.length + 8 := by
  simp only [nameBytes, LOCAL, List.length_append, List.length_cons, List.length_nil]

theorem zip_all_eqIgnoreAsciiCase {left right : Str} (same : left.length = right.length) :
    ((left.zip right).all fun (a, b) => eqIgnoreAsciiCase a b) = true ↔
      SameName left right := by
  induction left generalizing right with
  | nil =>
      cases right with
      | nil => simp [SameName]
      | cons head tail => simp at same
  | cons first rest induction =>
      cases right with
      | nil => simp at same
      | cons head tail =>
          have tails := induction (Nat.succ.inj same)
          rw [List.zip_cons_cons, List.all_cons, Bool.and_eq_true, tails]
          simp only [SameName, List.map_cons, List.cons.injEq, eqIgnoreAsciiCase, beq_iff_eq]

theorem labelMatches_iff (expected : List Str) (idx : Nat) (got : Str) :
    labelMatches expected idx got = true ↔ ∃ part, expected[idx]? = some part ∧
      SameName got part := by
  unfold labelMatches
  cases expected[idx]? with
  | none => simp
  | some part =>
      simp only [Bool.and_eq_true, beq_iff_eq, Option.some.injEq, exists_eq_left']
      constructor
      · intro holds
        rcases holds with ⟨length, same⟩
        exact (zip_all_eqIgnoreAsciiCase length.symm).mp same
      · intro same
        have length : got.length = part.length := by
          simpa using congrArg List.length same
        exact ⟨length.symm, (zip_all_eqIgnoreAsciiCase length).mpr same⟩

theorem lengthByte_toNat {length : Nat} (short : length ≤ 191) :
    length.toUInt8.toNat = length := by
  simp only [Nat.toUInt8_eq, UInt8.toNat_ofNat']
  omega

theorem lengthByte_pointer :
    ∀ length < 256, length.toUInt8 &&& 0xc0 = 0xc0 ↔ 191 < length := by
  decide +kernel

/-- Only a length byte from 192 on is taken for a compression pointer. -/
theorem pointer_iff (len : UInt8) : len &&& 0xc0 = 0xc0 ↔ 191 < len.toNat := by
  simpa using lengthByte_pointer len.toNat len.toNat_lt

/-- One label of the name, and the rest of the name after it. -/
theorem reads_label {expected : List Str} {idx : Nat} {part rest : List UInt8}
    {matched : Bool} (nonempty : part ≠ []) (short : part.length ≤ 191)
    (tail : Reads (Read.nameMatchesFrom expected
      (if labelMatches expected idx part then idx + 1 else USIZE_MAX)) matched rest) :
    Reads (Read.nameMatchesFrom expected idx) matched
      ((part.length.toUInt8 :: part) ++ rest) := by
  intro before after fits
  let whole := before ++ (part.length.toUInt8 :: (part ++ (rest ++ after)))
  have whole_eq : before ++ ((part.length.toUInt8 :: part) ++ rest ++ after) = whole := by
    simp only [whole, List.cons_append, List.append_assoc]
  have bound : whole.length ≤ USIZE_MAX := whole_eq ▸ fits
  have nonzero : part.length.toUInt8 ≠ 0 := by
    intro zero
    have zeroLength := congrArg UInt8.toNat zero
    rw [lengthByte_toNat short] at zeroLength
    exact nonempty (List.length_eq_zero_iff.mp zeroLength)
  have read : Read.u8 ⟨whole, before.length⟩ =
      (some part.length.toUInt8, ⟨whole, before.length + 1⟩) :=
    (Reads.u8 _).run before (part ++ (rest ++ after)) rfl rfl bound
  have skipped : Read.skip part.length.toUInt8.toNat ⟨whole, before.length + 1⟩ =
      (some (), ⟨whole, before.length + 1 + part.length⟩) := by
    rw [lengthByte_toNat short]
    exact (Reads.skip part).run (before ++ [part.length.toUInt8]) (rest ++ after)
      (by simp [whole]) (by simp) bound
  have got : whole.extract (before.length + 1) (before.length + 1 + part.length) = part := by
    simp [whole, List.extract_eq_take_drop]
  have last : Read.nameMatchesFrom expected
      (if labelMatches expected idx part then idx + 1 else USIZE_MAX)
      ⟨whole, before.length + 1 + part.length⟩ =
        (some matched, ⟨whole, before.length + 1 + part.length + rest.length⟩) :=
    tail.run (before ++ (part.length.toUInt8 :: part)) after (by simp [whole])
      (by simp only [List.length_append, List.length_cons]; omega) bound
  have plain : part.length.toUInt8 &&& 0xc0 ≠ 0xc0 := by
    rw [Ne, pointer_iff, lengthByte_toNat short]
    exact Nat.not_lt.mpr short
  rw [whole_eq, nameMatchesFrom_label read plain nonzero skipped,
    lengthByte_toNat short, got, last]
  have moved : before.length + 1 + part.length + rest.length =
      before.length + ((part.length.toUInt8 :: part) ++ rest).length := by
    simp only [List.length_append, List.length_cons]
    omega
  rw [moved]

theorem reads_end {expected : List Str} {idx : Nat} :
    Reads (Read.nameMatchesFrom expected idx) (idx == expected.length) [0] := by
  intro before after fits
  exact nameMatchesFrom_end (Reads.u8 0 before after fits)

/-- The name is read to its end whether it matches or not. -/
theorem reads_name {label : Str} (nonempty : label ≠ []) (short : label.length ≤ 191)
    (name : Str) :
    Reads (Read.nameMatches name) (decide (SameName label name)) (nameBytes label) := by
  have locals : Reads (Read.nameMatchesFrom [name, LOCAL]
      (if labelMatches [name, LOCAL] 0 label then 1 else USIZE_MAX))
      (decide (SameName label name)) ((LOCAL.length.toUInt8 :: LOCAL) ++ [0]) := by
    by_cases same : SameName label name
    · have first : labelMatches [name, LOCAL] 0 label = true :=
        (labelMatches_iff ..).mpr ⟨name, rfl, same⟩
      rw [if_pos first, decide_eq_true same]
      apply reads_label (by decide) (by decide)
      exact reads_end
    · have first : ¬ labelMatches [name, LOCAL] 0 label = true := by
        rw [labelMatches_iff]
        intro holds
        rcases holds with ⟨_, found, equal⟩
        rcases Option.some.inj found with rfl
        exact same equal
      rw [if_neg first, decide_eq_false same]
      apply reads_label (by decide) (by decide)
      exact reads_end
  exact reads_label nonempty short locals

/-! ## Packets -/

def queryPacket (label : Str) : List UInt8 :=
  [0, 0, 0, 0, 0, 1, 0, 0, 0, 0, 0, 0] ++ (nameBytes label ++ [0, 1, 0, 1])

def answerPacket (label : Str) (ip : Ipv4Address) : List UInt8 :=
  [0, 0, 0x84, 0, 0, 0, 0, 1, 0, 0, 0, 0] ++
    (nameBytes label ++ ([0, 1, 0x80, 1, 0, 0, 0, 120, 0, 4] ++ Ipv4Address.octets ip))

theorem length_queryPacket (label : Str) :
    (queryPacket label).length = label.length + 24 := by
  simp only [queryPacket, List.length_append, length_nameBytes, List.length_cons,
    List.length_nil]
  omega

theorem length_answerPacket (label : Str) (ip : Ipv4Address) :
    (answerPacket label ip).length = label.length + 34 := by
  simp only [answerPacket, Ipv4Address.octets, List.length_append, length_nameBytes,
    List.length_cons, List.length_nil]
  omega

theorem writes_label {part : Str} (nonempty : part ≠ []) (short : part.length ≤ 63) :
    Writes (Write.label part) (part.length.toUInt8 :: part) := by
  have allowed : ¬ (part = [] ∨ 63 < part.length) := by
    intro either
    rcases either with empty | long
    · exact nonempty empty
    · exact Nat.not_lt.mpr short long
  rw [Write.label, if_neg allowed]
  exact (Writes.u8 _).bind (Writes.bytes part)

theorem fails_label {part : Str} (refused : part = [] ∨ 63 < part.length) :
    Fails (Write.label part) := by
  rw [Write.label, if_pos refused]
  exact Fails.fail

theorem writes_name {label : Str} (nonempty : label ≠ []) (short : label.length ≤ 63) :
    Writes (Write.name label) (nameBytes label) := by
  have labels : Writes ([label, LOCAL].forM Write.label)
      ((label.length.toUInt8 :: label) ++ ((LOCAL.length.toUInt8 :: LOCAL) ++ [])) :=
    (writes_label nonempty short).bind
      ((writes_label (by decide) (by decide)).bind Writes.pure)
  have all := labels.bind (Writes.u8 0)
  rw [List.append_nil, List.append_assoc] at all
  exact all

theorem fails_name {label : Str} (refused : label = [] ∨ 63 < label.length) :
    Fails (Write.name label) :=
  (fails_label refused).bind_left.bind_left

/-- A writer that lays out the packet builds it in every buffer it fits in. -/
theorem finish_of_writes {write : Write} {packet : List UInt8} (writes : Writes write packet)
    (buf : List UInt8) :
    Write.finish write buf =
      if packet.length ≤ buf.length then
        some (packet.length, packet ++ buf.drop packet.length)
      else none := by
  rw [Write.finish, writes.at_start]
  split <;> rfl

theorem finish_of_fails {write : Write} (fails : Fails write) (buf : List UInt8) :
    Write.finish write buf = none := by
  rw [Write.finish, fails]
  rfl

theorem writes_query {label : Str} (nonempty : label ≠ []) (short : label.length ≤ 63) :
    Writes (Write.query label) (queryPacket label) :=
  (Writes.u16 _).bind ((Writes.u16 _).bind ((Writes.u16 _).bind ((Writes.u16 _).bind
    ((Writes.u16 _).bind ((Writes.u16 _).bind ((writes_name nonempty short).bind
      ((Writes.u16 _).bind (Writes.u16 _))))))))

theorem writes_answer {label : Str} (nonempty : label ≠ []) (short : label.length ≤ 63)
    (ip : Ipv4Address) :
    Writes (Write.answer label ip) (answerPacket label ip) :=
  (Writes.u16 _).bind ((Writes.u16 _).bind ((Writes.u16 _).bind ((Writes.u16 _).bind
    ((Writes.u16 _).bind ((Writes.u16 _).bind ((writes_name nonempty short).bind
      ((Writes.u16 _).bind ((Writes.u16 _).bind ((Writes.u32 _).bind ((Writes.u16 _).bind
        (Writes.bytes _)))))))))))

theorem fails_query {label : Str} (refused : label = [] ∨ 63 < label.length) :
    Fails (Write.query label) := by
  unfold Write.query
  iterate 6 apply Fails.bind_right
  exact (fails_name refused).bind_left

theorem fails_answer {label : Str} (refused : label = [] ∨ 63 < label.length)
    (ip : Ipv4Address) :
    Fails (Write.answer label ip) := by
  unfold Write.answer
  iterate 6 apply Fails.bind_right
  exact (fails_name refused).bind_left

theorem new_queryPacket (label : Str) :
    Reader.new (queryPacket label) =
      some { buf := queryPacket label, pos := 12, flags := 0, qdcount := 1, ancount := 0 } :=
  rfl

theorem new_answerPacket (label : Str) (ip : Ipv4Address) :
    Reader.new (answerPacket label ip) = some
      { buf := answerPacket label ip, pos := 12, flags := 0x8400, qdcount := 0, ancount := 1 } :=
  rfl

theorem isQueryFor_of_new {pkt : List UInt8} {reader : Reader}
    (opened : Reader.new pkt = some reader) (hostname : Str) :
    isQueryFor pkt hostname =
      if reader.flags &&& 0x8000 ≠ 0 then false
      else matchesQuestion hostname reader.qdcount.toNat reader.toCursor := by
  rw [isQueryFor, opened]

theorem parseAnswer_of_new {pkt : List UInt8} {reader : Reader}
    (opened : Reader.new pkt = some reader) (label : Str) :
    parseAnswer pkt label =
      if reader.flags &&& 0x8000 = 0 then none
      else ((do
        Read.questions reader.qdcount.toNat
        Read.answers label reader.ancount.toNat) reader.toCursor).1 := by
  rw [parseAnswer, opened]
  rfl

theorem matchesQuestion_of_reads {hostname : Str} {count : Nat}
    {cursor afterName afterType afterClass : Cursor} {matched : Option Bool}
    {qtype qclass : UInt16} (named : Read.nameMatches hostname cursor = (matched, afterName))
    (typed : Read.u16 afterName = (some qtype, afterType))
    (classed : Read.u16 afterType = (some qclass, afterClass)) :
    matchesQuestion hostname (count + 1) cursor =
      if matched = some true ∧ qtype = TYPE_A ∧ qclass &&& CLASS_MASK = CLASS_IN then true
      else matchesQuestion hostname count afterClass := by
  simp only [matchesQuestion, named, typed, classed]

theorem query_flags : (0 : UInt16) &&& 0x8000 = 0 := by decide

theorem answer_flags : (0x8400 : UInt16) &&& 0x8000 ≠ 0 := by decide

/-- The names a query asks for, also where its label is one no builder emits. -/
theorem isQueryFor_queryPacket {label : Str} (nonempty : label ≠ [])
    (short : label.length ≤ 191) (name : Str) :
    isQueryFor (queryPacket label) name = decide (SameName label name) := by
  have fits : (queryPacket label).length ≤ USIZE_MAX := by
    rw [length_queryPacket, USIZE_MAX]
    omega
  have named : Read.nameMatches name ⟨queryPacket label, 12⟩ =
      (some (decide (SameName label name)),
        ⟨queryPacket label, 12 + (nameBytes label).length⟩) :=
    (reads_name nonempty short name).run (queryPacket label |>.take 12) [0, 1, 0, 1] rfl rfl
      fits
  have typed : Read.u16 ⟨queryPacket label, 12 + (nameBytes label).length⟩ =
      (some (beU16 0 1), ⟨queryPacket label, 12 + (nameBytes label).length + 2⟩) :=
    (Reads.u16 0 1).run ((queryPacket label).take 12 ++ nameBytes label) [0, 1]
      (List.append_assoc ..).symm (List.length_append ..) fits
  have classed : Read.u16 ⟨queryPacket label, 12 + (nameBytes label).length + 2⟩ =
      (some (beU16 0 1), ⟨queryPacket label, 12 + (nameBytes label).length + 4⟩) :=
    (Reads.u16 0 1).run ((queryPacket label).take 12 ++ nameBytes label ++ [0, 1]) []
      (by rw [List.append_assoc, List.append_assoc]; rfl)
      (by rw [List.length_append, List.length_append]; rfl) fits
  rw [isQueryFor_of_new (new_queryPacket label), if_neg (not_not.mpr query_flags)]
  change matchesQuestion name (0 + 1) ⟨queryPacket label, 12⟩ = _
  rw [matchesQuestion_of_reads named typed classed]
  by_cases same : SameName label name
  · rw [decide_eq_true same, if_pos ⟨rfl, rfl, rfl⟩]
  · rw [decide_eq_false same, if_neg (by simp)]
    rfl

theorem parseAnswer_queryPacket (label name : Str) :
    parseAnswer (queryPacket label) name = none := by
  rw [parseAnswer_of_new (new_queryPacket label), if_pos query_flags]

theorem isQueryFor_answerPacket (label : Str) (ip : Ipv4Address) (name : Str) :
    isQueryFor (answerPacket label ip) name = false := by
  rw [isQueryFor_of_new (new_answerPacket label ip), if_pos answer_flags]

theorem reads_octets (ip : Ipv4Address) :
    Reads (do
      let a ← Read.u8
      let b ← Read.u8
      let c ← Read.u8
      let d ← Read.u8
      return Ipv4Address.new a b c d) ip (Ipv4Address.octets ip) := by
  apply (Reads.u8 (ip >>> 24).toUInt8).bind
  apply (Reads.u8 (ip >>> 16).toUInt8).bind
  apply (Reads.u8 (ip >>> 8).toUInt8).bind
  apply (Reads.u8 ip.toUInt8).bind
  rw [Ipv4Address.new, beU32_bytes]
  exact Reads.pure ip

/-- A record for the name gives its address. -/
theorem reads_answer {label : Str} (nonempty : label ≠ []) (short : label.length ≤ 191)
    (ip : Ipv4Address) {name : Str} (same : SameName label name) :
    Reads (Read.answers name 1) ip
      (nameBytes label ++ ([0, 1, 0x80, 1, 0, 0, 0, 120, 0, 4] ++ Ipv4Address.octets ip)) := by
  have named := reads_name nonempty short name
  rw [decide_eq_true same] at named
  apply named.bind
  apply (Reads.u16 0 1).bind
  apply (Reads.u16 0x80 1).bind
  apply (Reads.u32 0 0 0 120).bind
  apply (Reads.u16 0 4).bind
  rw [if_pos ⟨rfl, rfl, rfl⟩]
  exact reads_octets ip

/-- A record for another name is skipped, and no record follows it. -/
theorem refuses_answer {label : Str} (nonempty : label ≠ []) (short : label.length ≤ 191)
    (ip : Ipv4Address) {name : Str} (other : ¬ SameName label name) :
    Refuses (Read.answers name 1)
      (nameBytes label ++ ([0, 1, 0x80, 1, 0, 0, 0, 120, 0, 4] ++ Ipv4Address.octets ip)) := by
  have named := reads_name nonempty short name
  rw [decide_eq_false other] at named
  apply Refuses.bind named
  apply Refuses.bind (Reads.u16 0 1)
  apply Refuses.bind (Reads.u16 0x80 1)
  apply Refuses.bind (Reads.u32 0 0 0 120)
  apply Refuses.bind (Reads.u16 0 4)
  have unmatched : ¬ (false = true ∧ beU16 0 1 = TYPE_A ∧ (beU16 0 4).toNat = 4) :=
    fun both => Bool.false_ne_true both.1
  rw [if_neg unmatched]
  have rdlen : (beU16 0 4).toNat = 4 := by decide
  have length : 4 = (Ipv4Address.octets ip).length := rfl
  rw [rdlen, length, ← List.append_nil (Ipv4Address.octets ip)]
  apply Refuses.bind (Reads.skip (Ipv4Address.octets ip))
  exact Refuses.fail

theorem parseAnswer_answerPacket {label : Str} (nonempty : label ≠ [])
    (short : label.length ≤ 191) (ip : Ipv4Address) (name : Str) :
    parseAnswer (answerPacket label ip) name =
      if SameName label name then some ip else none := by
  have fits : (answerPacket label ip).length ≤ USIZE_MAX := by
    rw [length_answerPacket, USIZE_MAX]
    omega
  rw [parseAnswer_of_new (new_answerPacket label ip), if_neg answer_flags]
  change (Read.answers name 1 ⟨answerPacket label ip, 12⟩).1 = _
  have split : answerPacket label ip = (answerPacket label ip).take 12 ++
      ((nameBytes label ++ ([0, 1, 0x80, 1, 0, 0, 0, 120, 0, 4] ++ Ipv4Address.octets ip)) ++
        []) := by
    rw [List.append_nil]
    rfl
  by_cases same : SameName label name
  · rw [if_pos same]
    exact congrArg Prod.fst ((reads_answer nonempty short ip same).run _ _ split rfl fits)
  · have refused := refuses_answer nonempty short ip same ((answerPacket label ip).take 12) []
    rw [← split] at refused
    rw [if_neg same, ← refused fits]
    rfl

/-! ## What any packet can match -/

/-- A poisoned `idx` never equals the number of labels. -/
theorem nameMatchesFrom_beyond {expected : List Str} (few : expected.length < USIZE_MAX)
    (idx : Nat) (cursor : Cursor) (beyond : expected.length < idx) :
    (Read.nameMatchesFrom expected idx cursor).1 = some false := by
  induction idx, cursor using Read.nameMatchesFrom.induct expected with
  | case1 idx cursor after read => rw [nameMatchesFrom_exhausted read]
  | case2 idx cursor len afterLen read pointer => rw [nameMatchesFrom_pointer read pointer]
  | case3 idx cursor after read _ =>
      rw [nameMatchesFrom_end read, beq_false_of_ne (Nat.ne_of_gt beyond)]
  | case4 idx cursor len afterLen read plain nonzero after skipped =>
      rw [nameMatchesFrom_cut read plain nonzero skipped]
  | case5 idx cursor len afterLen read plain nonzero start after skipped got induction =>
      have unmatched : ¬ labelMatches expected idx got = true := by
        rw [labelMatches, List.getElem?_eq_none (Nat.le_of_lt beyond)]
        exact Bool.false_ne_true
      rw [dif_neg unmatched] at induction
      rw [nameMatchesFrom_label read plain nonzero skipped, if_neg unmatched]
      exact induction few

/-- A name on the wire has labels of 1 to 191 bytes: a longer length byte is a
pointer. -/
theorem length_of_nameMatches {name : Str} {cursor : Cursor}
    (matched : (Read.nameMatches name cursor).1 = some true) :
    1 ≤ name.length ∧ name.length ≤ 191 := by
  rw [Read.nameMatches] at matched
  rcases read : Read.u8 cursor with ⟨_ | len, afterLen⟩
  · rw [nameMatchesFrom_exhausted read] at matched
    cases matched
  by_cases pointer : len &&& 0xc0 = 0xc0
  · rw [nameMatchesFrom_pointer read pointer] at matched
    cases matched
  by_cases zero : len = 0
  · rw [zero] at read
    rw [nameMatchesFrom_end read] at matched
    cases matched
  rcases skipped : Read.skip len.toNat afterLen with ⟨_ | _, after⟩
  · rw [nameMatchesFrom_cut read pointer zero skipped] at matched
    cases matched
  rw [nameMatchesFrom_label read pointer zero skipped] at matched
  by_cases first : labelMatches [name, LOCAL] 0
      (after.buf.extract afterLen.pos (afterLen.pos + len.toNat)) = true
  · rcases (labelMatches_iff ..).mp first with ⟨part, found, same⟩
    rcases Option.some.inj found with rfl
    rcases Read.skip_some skipped with ⟨inside, rfl⟩
    have sameLength := congrArg List.length same
    simp only [List.length_map, List.extract_eq_take_drop, List.length_take,
      List.length_drop] at sameLength
    have positive : len.toNat ≠ 0 := fun none => zero (UInt8.toNat_inj.mp none)
    rw [pointer_iff] at pointer
    omega
  · have two : 2 < USIZE_MAX := by decide
    have poisoned : (Read.nameMatchesFrom [name, LOCAL] USIZE_MAX after).1 = some false := by
      apply nameMatchesFrom_beyond
      · exact two
      · exact two
    rw [if_neg first, poisoned] at matched
    cases matched

theorem length_of_isQueryFor {pkt : List UInt8} {hostname : Str}
    (query : isQueryFor pkt hostname = true) :
    1 ≤ hostname.length ∧ hostname.length ≤ 191 := by
  have question : ∀ (count : Nat) (cursor : Cursor),
      matchesQuestion hostname count cursor = true →
        1 ≤ hostname.length ∧ hostname.length ≤ 191 := by
    intro count
    induction count with
    | zero =>
        intro cursor matched
        cases matched
    | succ count induction =>
        intro cursor matched
        simp only [matchesQuestion] at matched
        split at matched
        · split at matched
          · rename_i met
            exact length_of_nameMatches met.1
          · exact induction _ matched
        · cases matched
  rw [isQueryFor] at query
  split at query
  · cases query
  · split at query
    · cases query
    · exact question _ _ query

/-- A packet cannot be both: a query has the `QR` bit clear, an answer has it set. -/
theorem isQueryFor_of_parseAnswer {pkt : List UInt8} {label : Str} {ip : Ipv4Address}
    (found : parseAnswer pkt label = some ip) (hostname : Str) :
    isQueryFor pkt hostname = false := by
  cases opened : Reader.new pkt with
  | none =>
      rw [isQueryFor, opened]
  | some reader =>
      rw [parseAnswer_of_new opened] at found
      rw [isQueryFor_of_new opened]
      by_cases query : reader.flags &&& 0x8000 = 0
      · rw [if_pos query] at found
        cases found
      · rw [if_pos query]

/-! ## The builders and the readers together -/

theorem refused_or_allowed (label : Str) :
    (label = [] ∨ 63 < label.length) ∨ (label ≠ [] ∧ label.length ≤ 63) := by
  by_cases empty : label = []
  · exact .inl (.inl empty)
  · by_cases short : label.length ≤ 63
    · exact .inr ⟨empty, short⟩
    · exact .inl (.inr (Nat.lt_of_not_le short))

theorem not_allowed_of_refused {label : Str} (refused : label = [] ∨ 63 < label.length) :
    ¬ (1 ≤ label.length ∧ label.length ≤ 63) := by
  intro holds
  rcases holds with ⟨nonempty, short⟩
  rcases refused with rfl | long
  · exact absurd nonempty (by decide)
  · exact Nat.not_lt.mpr short long

/-- A builder takes exactly the labels of 1 to 63 bytes, given the room. -/
theorem finish_isSome_iff {write : Write} {packet : List UInt8} {label : Str}
    (fails : (label = [] ∨ 63 < label.length) → Fails write)
    (writes : label ≠ [] → label.length ≤ 63 → Writes write packet) {buf : List UInt8}
    (room : label.length ≤ 63 → packet.length ≤ buf.length) :
    (Write.finish write buf).isSome = true ↔ 1 ≤ label.length ∧ label.length ≤ 63 := by
  rcases refused_or_allowed label with refused | ⟨nonempty, short⟩
  · rw [finish_of_fails (fails refused)]
    simp only [Option.isSome_none, Bool.false_eq_true, false_iff]
    exact not_allowed_of_refused refused
  · rw [finish_of_writes (writes nonempty short), if_pos (room short)]
    simp only [Option.isSome_some, true_iff]
    exact ⟨List.length_pos_iff.mpr nonempty, short⟩

/-- What a builder that returns has put at the front of the buffer. -/
theorem finish_eq_some {write : Write} {packet : List UInt8} {label : Str}
    (fails : (label = [] ∨ 63 < label.length) → Fails write)
    (writes : label ≠ [] → label.length ≤ 63 → Writes write packet)
    {buf filled : List UInt8} {len : Nat} (built : Write.finish write buf = some (len, filled)) :
    (label ≠ [] ∧ label.length ≤ 63) ∧ len = packet.length ∧ filled.take len = packet := by
  rcases refused_or_allowed label with refused | allowed
  · rw [finish_of_fails (fails refused)] at built
    cases built
  · rw [finish_of_writes (writes allowed.1 allowed.2)] at built
    split at built
    · rcases Prod.mk.inj (Option.some.inj built) with ⟨rfl, rfl⟩
      exact ⟨allowed, rfl, List.take_left ..⟩
    · cases built

theorem buildAnswer_eq {label : Str} (nonempty : label ≠ []) (short : label.length ≤ 63)
    (ip : Ipv4Address) {buf : List UInt8}
    (fits : (answerPacket label ip).length ≤ buf.length) :
    buildAnswer buf label ip = some ((answerPacket label ip).length,
      answerPacket label ip ++ buf.drop (answerPacket label ip).length) := by
  rw [buildAnswer, finish_of_writes (writes_answer nonempty short ip), if_pos fits]

theorem finish_eq_none_iff {write : Write} {packet : List UInt8}
    (writes : Writes write packet) (buf : List UInt8) :
    Write.finish write buf = none ↔ buf.length < packet.length := by
  rw [finish_of_writes writes]
  split
  · rename_i fits
    exact ⟨nofun, fun short => absurd fits (Nat.not_le.mpr short)⟩
  · rename_i short
    exact ⟨fun _ => Nat.lt_of_not_le short, fun _ => rfl⟩

/-- A query is read as a query for the name it was built for, whatever the buffer;
an answer gives its address for the name it was built for; and neither is taken for
the other. -/
theorem packets_roundtrip :
    (∀ (label : Str) (ip : Ipv4Address) (buf : List UInt8), 256 ≤ buf.length →
      ((buildQuery buf label).isSome = true ↔ 1 ≤ label.length ∧ label.length ≤ 63) ∧
      ((buildAnswer buf label ip).isSome = true ↔ 1 ≤ label.length ∧ label.length ≤ 63)) ∧
    (∀ (label : Str) (buf : List UInt8) (len : Nat) (filled : List UInt8),
      buildQuery buf label = some (len, filled) →
        len = (queryPacket label).length ∧ filled.take len = queryPacket label ∧
        ∀ name : Str,
          (isQueryFor (filled.take len) name = true ↔ SameName label name) ∧
          parseAnswer (filled.take len) name = none) ∧
    (∀ (label : Str) (ip : Ipv4Address) (buf : List UInt8) (len : Nat)
      (filled : List UInt8), buildAnswer buf label ip = some (len, filled) →
        len = (answerPacket label ip).length ∧ filled.take len = answerPacket label ip ∧
        ∀ name : Str,
          (parseAnswer (filled.take len) name =
            if SameName label name then some ip else none) ∧
          isQueryFor (filled.take len) name = false) ∧
    (∀ (label : Str) (ip : Ipv4Address) (buf : List UInt8),
      1 ≤ label.length → label.length ≤ 63 →
        (buildQuery buf label = none ↔ buf.length < (queryPacket label).length) ∧
        (buildAnswer buf label ip = none ↔
          buf.length < (answerPacket label ip).length)) := by
  refine ⟨?_, ?_, ?_, ?_⟩
  · intro label ip buf room
    constructor
    · apply finish_isSome_iff fails_query writes_query
      intro short
      rw [length_queryPacket]
      omega
    · apply finish_isSome_iff (fun refused => fails_answer refused ip)
        (fun nonempty short => writes_answer nonempty short ip)
      intro short
      rw [length_answerPacket]
      omega
  · intro label buf len filled built
    rcases finish_eq_some fails_query writes_query built with ⟨⟨nonempty, short⟩, length, packet⟩
    apply And.intro length
    rw [packet]
    apply And.intro rfl
    intro name
    rw [isQueryFor_queryPacket nonempty (short.trans (by decide)), decide_eq_true_iff]
    exact ⟨Iff.rfl, parseAnswer_queryPacket label name⟩
  · intro label ip buf len filled built
    rcases finish_eq_some (fun refused => fails_answer refused ip)
        (fun nonempty short => writes_answer nonempty short ip) built with
      ⟨⟨nonempty, short⟩, length, packet⟩
    apply And.intro length
    rw [packet]
    apply And.intro rfl
    intro name
    exact ⟨parseAnswer_answerPacket nonempty (short.trans (by decide)) ip name,
      isQueryFor_answerPacket label ip name⟩
  · intro label ip buf nonempty short
    have filled : label ≠ [] := List.length_pos_iff.mp nonempty
    exact ⟨finish_eq_none_iff (writes_query filled short) buf,
      finish_eq_none_iff (writes_answer filled short ip) buf⟩

/-- `beet-esp`, asked for as `Beet-ESP`. -/
theorem packets_roundtrip_beet :
    let label : Str := [0x62, 0x65, 0x65, 0x74, 0x2d, 0x65, 0x73, 0x70]
    let asked : Str := [0x42, 0x65, 0x65, 0x74, 0x2d, 0x45, 0x53, 0x50]
    let ip : Ipv4Address := 0xc0a8012a
    (buildQuery (List.replicate 256 0) label).isSome = true ∧
    isQueryFor (queryPacket label) asked = true ∧
    parseAnswer (queryPacket label) asked = none ∧
    parseAnswer (answerPacket label ip) asked = some ip ∧
    isQueryFor (answerPacket label ip) asked = false ∧
    buildAnswer (List.replicate 41 0) label ip = none := by
  intro label asked ip
  rcases packets_roundtrip with ⟨allowed, queries, answers, short⟩
  have both := allowed label ip (List.replicate 256 0) (Nat.le_of_eq List.length_replicate.symm)
  have builtQuery := both.1.mpr ⟨by decide, by decide⟩
  have builtAnswer := both.2.mpr ⟨by decide, by decide⟩
  rcases Option.isSome_iff_exists.mp builtQuery with ⟨⟨queryLen, queryBuf⟩, query⟩
  rcases Option.isSome_iff_exists.mp builtAnswer with ⟨⟨answerLen, answerBuf⟩, answer⟩
  rcases queries label _ queryLen queryBuf query with ⟨-, queryBytes, readQuery⟩
  rcases answers label ip _ answerLen answerBuf answer with ⟨-, answerBytes, readAnswer⟩
  rw [queryBytes] at readQuery
  rw [answerBytes] at readAnswer
  have same : SameName label asked := by decide
  have found := (readAnswer asked).1
  rw [if_pos same] at found
  have full := ((short label ip (List.replicate 41 0) (by decide) (by decide)).2).mpr
    (by rw [length_answerPacket, List.length_replicate]; decide)
  exact ⟨builtQuery, (readQuery asked).1.mpr same, (readQuery asked).2, found,
    (readAnswer asked).2, full⟩

end BeetEsp.Net.Mdns
