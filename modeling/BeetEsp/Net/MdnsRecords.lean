import BeetEsp.Net.MdnsQuestions

/-! # Answer records

What `parse_answer` makes of a packet whose questions and records are well formed,
wherever the packet ends: it takes the first record with the name, the type and the size
of an address, whatever its class.
-/

namespace BeetEsp.Net.Mdns

open Foundation

structure Record where
  name : Name
  rtype : UInt16
  rclass : UInt16
  ttl : UInt32
  rdata : List UInt8
  sized : rdata.length < 65536

def Record.rdlength (record : Record) : UInt16 := UInt16.ofNat record.rdata.length

def Record.bytes (record : Record) : List UInt8 :=
  record.name.bytes ++ (u16Bytes record.rtype ++ (u16Bytes record.rclass ++
    (u32Bytes record.ttl ++ (u16Bytes record.rdlength ++ record.rdata))))

/-- The address in four bytes of data. -/
def Record.address (record : Record) : Option Ipv4Address :=
  match record.rdata with
  | [a, b, c, d] => some (Ipv4Address.new a b c d)
  | _ => none

/-- The record has the name `label.local`, type `A` and four bytes of data. -/
def Record.Hits (record : Record) (label : Str) : Prop :=
  record.name.Is label ∧ record.rtype = TYPE_A ∧ record.rdata.length = 4

/-- The record also has class `IN`, but for the cache-flush bit. -/
def Record.Answers (record : Record) (label : Str) : Prop :=
  record.Hits label ∧ record.rclass &&& CLASS_MASK = CLASS_IN

instance (record : Record) (label : Str) : Decidable (record.Hits label) :=
  inferInstanceAs (Decidable (_ ∧ _))

instance (record : Record) (label : Str) : Decidable (record.Answers label) :=
  inferInstanceAs (Decidable (_ ∧ _))

theorem Record.rdlength_toNat (record : Record) :
    record.rdlength.toNat = record.rdata.length := by
  rw [rdlength, UInt16.toNat_ofNat']
  exact Nat.mod_eq_of_lt record.sized

theorem Record.Hits.data {record : Record} {label : Str} (hits : record.Hits label) :
    ∃ a b c d, record.rdata = [a, b, c, d] ∧
      record.address = some (Ipv4Address.new a b c d) := by
  have four := hits.2.2
  rcases shape : record.rdata with - | ⟨a, - | ⟨b, - | ⟨c, - | ⟨d, - | _⟩⟩⟩⟩ <;>
    simp [shape] at four
  exact ⟨a, b, c, d, rfl, by rw [address, shape]⟩

/-! ## The question section -/

theorem reads_questions (questions : List Question) :
    Reads (Read.questions questions.length) () (questions.flatMap Question.bytes) := by
  induction questions with
  | nil => exact Reads.pure ()
  | cons question questions induction =>
      rw [List.flatMap_cons, Question.bytes, List.append_assoc, List.append_assoc]
      apply (reads_skipName question.name).bind
      apply (Reads.u16_bytes question.qtype).bind
      apply (Reads.u16_bytes question.qclass).bind
      exact induction

theorem starves_questions (questions : List Question) :
    Starves (Read.questions questions.length) (questions.flatMap Question.bytes) := by
  induction questions with
  | nil => exact Starves.nil
  | cons question questions induction =>
      rw [List.flatMap_cons, Question.bytes, List.append_assoc, List.append_assoc]
      apply Starves.bind (reads_skipName question.name) (starves_skipName question.name)
      apply Starves.bind (Reads.u16_bytes question.qtype) (Starves.u16 _ _)
      apply Starves.bind (Reads.u16_bytes question.qclass) (Starves.u16 _ _)
      exact induction

/-! ## One record -/

/-- One turn of the loop over the answers: the address, or nothing and the record is
skipped. -/
def Read.record (label : Str) : Read (Option Ipv4Address) := do
  let matched ← Read.nameMatches label
  let rtype ← Read.u16
  let _rclass ← Read.u16
  let _ttl ← Read.u32
  let rdlen ← Read.u16
  if matched = true ∧ rtype = TYPE_A ∧ rdlen.toNat = 4 then
    let a ← Read.u8
    let b ← Read.u8
    let c ← Read.u8
    let d ← Read.u8
    return some (Ipv4Address.new a b c d)
  else
    Read.skip rdlen.toNat
    return none

theorem answers_succ (label : Str) (count : Nat) :
    Read.answers label (count + 1) = Read.record label >>= fun found =>
      match found with
      | some ip => pure ip
      | none => Read.answers label count := by
  simp only [Read.answers, Read.record, Read.bind_assoc]
  congr 1; funext matched
  congr 1; funext rtype
  congr 1; funext rclass
  congr 1; funext ttl
  congr 1; funext rdlen
  split
  · simp only [Read.bind_assoc]
    rfl
  · simp only [Read.bind_assoc]
    rfl

/-- The reader of a record takes the record for a hit exactly when it is one. -/
theorem Record.hits_iff (record : Record) (label : Str) :
    (decide (record.name.Is label) = true ∧ record.rtype = TYPE_A ∧
      record.rdlength.toNat = 4) ↔ record.Hits label := by
  rw [decide_eq_true_eq, record.rdlength_toNat, Hits]

theorem reads_record (record : Record) (label : Str) :
    Reads (Read.record label) (if record.Hits label then record.address else none)
      record.bytes := by
  apply (reads_nameMatches record.name label).bind
  apply (Reads.u16_bytes record.rtype).bind
  apply (Reads.u16_bytes record.rclass).bind
  apply (Reads.u32_bytes record.ttl).bind
  apply (Reads.u16_bytes record.rdlength).bind
  by_cases hits : record.Hits label
  · rcases hits.data with ⟨a, b, c, d, data, address⟩
    rw [if_pos ((record.hits_iff label).mpr hits), if_pos hits, address, data]
    apply (Reads.u8 a).bind
    apply (Reads.u8 b).bind
    apply (Reads.u8 c).bind
    apply (Reads.u8 d).bind
    exact Reads.pure _
  · rw [if_neg (fun taken => hits ((record.hits_iff label).mp taken)), if_neg hits,
      record.rdlength_toNat]
    suffices skips : Reads (do Read.skip record.rdata.length; return none)
        (none : Option Ipv4Address) (record.rdata ++ []) by
      rwa [List.append_nil] at skips
    apply (Reads.skip record.rdata).bind
    exact Reads.pure none

theorem starves_record (record : Record) (label : Str) :
    Starves (Read.record label) record.bytes := by
  apply Starves.bind_of_exhausts (reads_nameMatches record.name label)
    (exhausts_nameMatches record.name label) (fun _ => Needs.u16.bind)
  apply Starves.bind (Reads.u16_bytes record.rtype) (Starves.u16 _ _)
  apply Starves.bind (Reads.u16_bytes record.rclass) (Starves.u16 _ _)
  apply Starves.bind (Reads.u32_bytes record.ttl) (Starves.u32 _ _ _ _)
  apply Starves.bind (Reads.u16_bytes record.rdlength) (Starves.u16 _ _)
  by_cases hits : record.Hits label
  · rcases hits.data with ⟨a, b, c, d, data, -⟩
    rw [if_pos ((record.hits_iff label).mpr hits), data]
    apply Starves.bind (Reads.u8 a) (Starves.u8 a)
    apply Starves.bind (Reads.u8 b) (Starves.u8 b)
    apply Starves.bind (Reads.u8 c) (Starves.u8 c)
    apply Starves.bind (Reads.u8 d) (Starves.u8 d)
    exact Starves.nil
  · rw [if_neg (fun taken => hits ((record.hits_iff label).mp taken)),
      record.rdlength_toNat]
    suffices skips : Starves (do Read.skip record.rdata.length; return none)
        (record.rdata ++ []) by
      rwa [List.append_nil] at skips
    apply Starves.bind (Reads.skip record.rdata) (Starves.skip record.rdata)
    exact Starves.nil

/-! ## All records -/

/-- The scan of `parse_answer` takes the first hit among the records that are there in
full. -/
theorem answers_take (records : List Record) (label : Str) {rest before : List UInt8}
    {length : Nat}
    (fits : (before ++ (records.flatMap Record.bytes ++ rest).take length).length ≤
      ISIZE_MAX) :
    (Read.answers label records.length
        ⟨before ++ (records.flatMap Record.bytes ++ rest).take length, before.length⟩).1 =
      ((complete Record.bytes length records).find? fun record =>
        decide (record.Hits label)).bind Record.address := by
  induction records generalizing before length with
  | nil => rfl
  | cons record records induction =>
      rw [List.flatMap_cons, List.append_assoc] at fits ⊢
      rw [List.length_cons, answers_succ, complete]
      by_cases enough : record.bytes.length ≤ length
      · have read := (reads_record record label).run_front enough fits
        rw [if_pos enough, Read.bind_some read]
        by_cases hits : record.Hits label
        · rcases hits.data with ⟨a, b, c, d, -, address⟩
          simp only [List.find?_cons, hits, decide_true, if_true, address, Option.bind_some]
          rfl
        · rw [List.take_append, List.take_of_length_le enough, ← List.append_assoc] at fits
          simp only [List.find?_cons, hits, decide_false, if_false]
          exact induction fits
      · have inside := Nat.lt_of_not_le enough
        rw [List.take_append_of_le_length (Nat.le_of_lt inside)] at fits ⊢
        rw [if_neg enough]
        exact Read.bind_none (starves_record record label before length inside fits)

/-- A packet with as many questions and answers as its header counts. -/
structure Message where
  header : Header
  questions : List Question
  answers : List Record
  rest : List UInt8
  qdcount : questions.length = header.qdcount.toNat
  ancount : answers.length = header.ancount.toNat

/-- What stands before the answers. -/
def Message.front (message : Message) : List UInt8 :=
  message.header.bytes ++ message.questions.flatMap Question.bytes

def Message.bytes (message : Message) : List UInt8 :=
  message.front ++ (message.answers.flatMap Record.bytes ++ message.rest)

/-- The first answer with a property, where a packet that may end early has it and all
that stands before it in full. -/
def Message.First (message : Message) (packet : List UInt8) (property : Record → Prop)
    (record : Record) : Prop :=
  ∃ before after, message.answers = before ++ record :: after ∧
    message.front ++ (before ++ [record]).flatMap Record.bytes <+: packet ∧
    property record ∧ ∀ earlier ∈ before, ¬property earlier

section

variable {message : Message} {packet : List UInt8}

theorem Message.first_iff (property : Record → Prop) [DecidablePred property]
    (cut : packet <+: message.bytes) (fronted : message.front.length ≤ packet.length)
    (record : Record) :
    message.First packet property record ↔
      (complete Record.bytes (packet.length - message.front.length) message.answers).find?
        (fun record => decide (property record)) = some record := by
  rw [List.find?_eq_some_iff_append, decide_eq_true_eq]
  constructor
  · intro first
    rcases first with ⟨before, after, split, present, holds, none⟩
    rcases (complete_prefix_iff cut fronted).mpr ⟨⟨after, split⟩, present⟩ with ⟨back, found⟩
    exact ⟨holds, before, back, found, by simpa using none⟩
  · intro found
    rcases found with ⟨holds, before, back, split, none⟩
    rcases (complete_prefix_iff cut fronted).mp ⟨back, split⟩ with ⟨⟨after, shape⟩, present⟩
    exact ⟨before, after, shape, present, holds, by simpa using none⟩

theorem Message.First.fronted {property : Record → Prop} {record : Record}
    (first : message.First packet property record) :
    message.front.length ≤ packet.length := by
  rcases first with ⟨before, after, -, present, -⟩
  have length := present.length_le
  rw [List.length_append] at length
  omega

theorem Message.First.unique {property : Record → Prop} {record other : Record}
    (cut : packet <+: message.bytes) (first : message.First packet property record)
    (second : message.First packet property other) : record = other := by
  classical
  have found := (Message.first_iff property cut first.fronted record).mp first
  have found' := (Message.first_iff property cut first.fronted other).mp second
  exact Option.some.inj (found.symm.trans found')

/-- `parse_answer` takes the address of the first record that hits, of whatever class. -/
theorem parseAnswer_eq_some (cut : packet <+: message.bytes)
    (fits : packet.length ≤ ISIZE_MAX) (label : Str) (ip : Ipv4Address) :
    parseAnswer packet label = some ip ↔ ¬message.header.IsQuery ∧
      ∃ record, message.First packet (·.Hits label) record ∧ record.address = some ip := by
  have taken := List.prefix_iff_eq_take.mp cut
  rw [Message.bytes, Message.front, List.append_assoc] at taken
  have size : message.front.length =
      12 + (message.questions.flatMap Question.bytes).length := by
    rw [Message.front, List.length_append, Header.length_bytes]
  have missing (early : packet.length < message.front.length) : ¬(¬message.header.IsQuery ∧
      ∃ record, message.First packet (·.Hits label) record ∧ record.address = some ip) := by
    intro holds
    rcases holds with ⟨-, record, first, -⟩
    exact absurd first.fronted (Nat.not_le.mpr early)
  rcases Reader.new_take message.header (message.questions.flatMap Question.bytes ++
      (message.answers.flatMap Record.bytes ++ message.rest)) packet.length with
    ⟨short, refused⟩ | ⟨long, whole⟩
  · rw [← taken] at refused
    rw [parseAnswer, refused]
    exact iff_of_false (by simp) (missing (by omega))
  · rw [← taken] at whole
    rw [parseAnswer_header whole]
    by_cases query : message.header.IsQuery
    · rw [if_pos query]
      exact iff_of_false (by simp) (fun holds => holds.1 query)
    · rw [if_neg query, ← message.qdcount, ← message.ancount]
      by_cases fronted : message.front.length ≤ packet.length
      · have split := List.prefix_iff_eq_take.mp cut
        rw [Message.bytes, List.take_append, List.take_of_length_le fronted] at split
        have skipped : Read.questions message.questions.length ⟨packet, 12⟩ =
            (some (), ⟨packet, message.front.length⟩) := by
          rw [size]
          exact (reads_questions message.questions).run message.header.bytes _
            (split.trans (List.append_assoc ..)) rfl (fits_of_le_isize fits)
        have inBuffer : (message.front ++ (message.answers.flatMap Record.bytes ++
            message.rest).take (packet.length - message.front.length)).length ≤
              ISIZE_MAX := by
          rwa [← split]
        have scan := answers_take message.answers label inBuffer
        rw [← split] at scan
        rw [Read.bind_some skipped, scan, Option.bind_eq_some_iff]
        simp only [← message.first_iff (·.Hits label) cut fronted, query, not_false_eq_true,
          true_and]
      · have early := Nat.lt_of_not_le fronted
        have inside : packet.length - 12 <
            (message.questions.flatMap Question.bytes).length := by omega
        rw [List.take_append_of_le_length (Nat.le_of_lt inside)] at whole
        have starved := starves_questions message.questions message.header.bytes
          (packet.length - 12) inside (whole ▸ fits)
        rw [← whole, Header.length_bytes] at starved
        rw [Read.bind_none starved]
        exact iff_of_false (by simp) (missing early)

end

/-! ## Classes -/

/-- The address of the first record that answers for `label.local`, with its class. -/
def Message.Resolves (message : Message) (packet : List UInt8) (label : Str)
    (ip : Ipv4Address) : Prop :=
  ¬message.header.IsQuery ∧
    ∃ record, message.First packet (·.Answers label) record ∧ record.address = some ip

/-- The first record that hits has class `IN`, or the first that has it gives the same
address. -/
def Message.Classed (message : Message) (packet : List UInt8) (label : Str) : Prop :=
  ¬message.header.IsQuery → ∀ record, message.First packet (·.Hits label) record →
    record.rclass &&& CLASS_MASK = CLASS_IN ∨
      ∃ answer, message.First packet (·.Answers label) answer ∧
        answer.address = record.address

section

variable {message : Message} {packet : List UInt8} {label : Str}

/-- A first hit of class `IN` is the first answer. -/
theorem Message.First.answers {record : Record}
    (first : message.First packet (·.Hits label) record)
    (classed : record.rclass &&& CLASS_MASK = CLASS_IN) :
    message.First packet (·.Answers label) record := by
  rcases first with ⟨before, after, split, present, hits, none⟩
  exact ⟨before, after, split, present, ⟨hits, classed⟩, fun earlier member answers =>
    none earlier member answers.1⟩

/-- At an answer or before it stands a first hit. -/
theorem Message.First.hit {answer : Record}
    (first : message.First packet (·.Answers label) answer)
    (cut : packet <+: message.bytes) :
    ∃ record, message.First packet (·.Hits label) record := by
  have found := (message.first_iff (·.Answers label) cut first.fronted answer).mp first
  have hit : ((complete Record.bytes (packet.length - message.front.length)
      message.answers).find? fun record => decide (record.Hits label)).isSome := by
    rw [List.find?_isSome]
    refine ⟨answer, List.mem_of_find?_eq_some found, ?_⟩
    rcases first with ⟨-, -, -, -, holds, -⟩
    exact decide_eq_true holds.1
  rcases Option.isSome_iff_exists.mp hit with ⟨record, shown⟩
  exact ⟨record, (message.first_iff (·.Hits label) cut first.fronted record).mpr shown⟩

/-- For a packet that may end anywhere, `parse_answer` returns exactly the address of the
first answer if and only if the class that it does not look at makes no difference. -/
theorem parseAnswer_resolves_iff (fits : packet.length ≤ ISIZE_MAX)
    (cut : packet <+: message.bytes) :
    (∀ ip, parseAnswer packet label = some ip ↔ message.Resolves packet label ip) ↔
      message.Classed packet label := by
  constructor
  · intro resolves response record hit
    rcases hit with ⟨before, after, split, present, hits, none⟩
    rcases hits.data with ⟨a, b, c, d, -, address⟩
    have parsed := (parseAnswer_eq_some cut fits label _).mpr
      ⟨response, record, ⟨before, after, split, present, hits, none⟩, address⟩
    rcases ((resolves _).mp parsed).2 with ⟨answer, first, same⟩
    exact .inr ⟨answer, first, same.trans address.symm⟩
  · intro classed ip
    rw [parseAnswer_eq_some cut fits]
    refine and_congr_right ?_
    intro response
    constructor
    · intro hit
      rcases hit with ⟨record, first, address⟩
      rcases classed response record first with inClass | ⟨answer, answers, same⟩
      · exact ⟨record, first.answers inClass, address⟩
      · exact ⟨answer, answers, same.trans address⟩
    · intro answered
      rcases answered with ⟨answer, answers, address⟩
      rcases answers.hit cut with ⟨record, first⟩
      refine ⟨record, first, ?_⟩
      rcases classed response record first with inClass | ⟨other, others, same⟩
      · rw [(first.answers inClass).unique cut answers]
        exact address
      · rw [← same, others.unique cut answers]
        exact address

end

/-- `be.local`, in upper case. -/
def hostName : Name :=
  ⟨[⟨[0x42, 0x45], by decide, by decide⟩, ⟨LOCAL, by decide, by decide⟩], .root⟩

/-- A response of one address record for `be.local`, of this class. -/
def addressMessage (rclass : UInt16) : Message where
  header := ⟨0, 0x8400, 0, 1, 0, 0⟩
  questions := []
  answers := [⟨hostName, TYPE_A, rclass, 120, [192, 168, 1, 66], by decide⟩]
  rest := []
  qdcount := rfl
  ancount := rfl

/-- A response of class `IN`, with the cache-flush bit. -/
theorem parseAnswer_resolves_iff_flush :
    let message := addressMessage 0x8001
    (∀ ip, parseAnswer message.bytes [0x62, 0x65] = some ip ↔
      message.Resolves message.bytes [0x62, 0x65] ip) ↔
    message.Classed message.bytes [0x62, 0x65] :=
  parseAnswer_resolves_iff (by decide) List.prefix_rfl

/-- A record of class `CH` is taken for an address. -/
theorem chaos_record_is_taken :
    let message := addressMessage 3
    parseAnswer message.bytes [0x62, 0x65] = some 0xC0A80142 ∧
      ¬message.Resolves message.bytes [0x62, 0x65] 0xC0A80142 := by
  intro message
  refine ⟨by decide +kernel, ?_⟩
  intro resolved
  rcases resolved with ⟨-, record, ⟨before, after, split, -, answers, -⟩, -⟩
  have member : record ∈ message.answers := by
    rw [split]
    exact List.mem_append_right _ List.mem_cons_self
  rw [List.mem_singleton.mp member] at answers
  exact absurd answers.2 (by decide)

end BeetEsp.Net.Mdns
