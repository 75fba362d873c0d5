import BeetEsp.Foundation.CursorTrace
import BeetEsp.Net.MdnsGrammar

/-! # Safety of the mDNS parser

`is_query_for` and `parse_answer` with a note of each access to the packet: the cursor
goes forward and reads inside the packet only, whatever the packet is, and after the
first access that fails no other succeeds.
-/

namespace BeetEsp.Net.Mdns

open Foundation

namespace Traced

open Foundation.Traced

/-- A length byte and what it skips leave less of the buffer. -/
theorem remaining_lt {cursor afterLen after : Cursor} {len : UInt8} {count : Nat}
    {first second : List Access} (read : u8 cursor = ((some len, afterLen), first))
    (skipped : skip count afterLen = ((some (), after), second)) :
    after.buf.length - after.pos < cursor.buf.length - cursor.pos :=
  Read.remaining_lt (Prod.mk.inj read).1 (Prod.mk.inj skipped).1

/-! ## The parser with its accesses -/

/-- `Reader::new` indexes the header directly. -/
def new (packet : List UInt8) : Option Reader × List Nat :=
  if packet.length < 12 then (none, [])
  else
    ((do
      let flags := beU16 (← packet[2]?) (← packet[3]?)
      let qdcount := beU16 (← packet[4]?) (← packet[5]?)
      let ancount := beU16 (← packet[6]?) (← packet[7]?)
      return { buf := packet, pos := 12, flags, qdcount, ancount }), [2, 3, 4, 5, 6, 7])

def skipName : Traced Unit := fun cursor =>
  match _ : u8 cursor with
  | ((none, cursor), log) => ((none, cursor), log)
  | ((some len, cursor), log) =>
    if len &&& 0xc0 = 0xc0 then
      match u8 cursor with
      | ((some _, cursor), last) => ((some (), cursor), log ++ last)
      | ((none, cursor), last) => ((none, cursor), log ++ last)
    else if len &&& 0xc0 = 0 then
      if len = 0 then ((some (), cursor), log)
      else
        match _ : skip len.toNat cursor with
        | ((some (), cursor), skipped) =>
          let (result, rest) := skipName cursor
          (result, log ++ skipped ++ rest)
        | ((none, cursor), skipped) => ((none, cursor), log ++ skipped)
    else ((none, cursor), log)
termination_by cursor => cursor.buf.length - cursor.pos
decreasing_by exact remaining_lt (by assumption) (by assumption)

def nameMatchesFrom (expected : List Str) (idx : Nat) : Traced Bool := fun cursor =>
  match _ : u8 cursor with
  | ((none, cursor), log) => ((some false, cursor), log)
  | ((some len, cursor), log) =>
    if len &&& 0xc0 = 0xc0 then
      let ((_, cursor), last) := u8 cursor
      ((some false, cursor), log ++ last)
    else if len = 0 then ((some (idx == expected.length), cursor), log)
    else
      let start := cursor.pos
      match _ : skip len.toNat cursor with
      | ((none, cursor), skipped) => ((some false, cursor), log ++ skipped)
      | ((some (), cursor), skipped) =>
        let ((got, _), sliced) := slice start cursor
        let (result, rest) := nameMatchesFrom expected
          (if labelMatches expected idx (got.getD []) then idx + 1 else USIZE_MAX) cursor
        (result, log ++ skipped ++ sliced ++ rest)
termination_by cursor => cursor.buf.length - cursor.pos
decreasing_by exact remaining_lt (by assumption) (by assumption)

def nameMatches (label : Str) : Traced Bool :=
  nameMatchesFrom [label, LOCAL] 0

def matchesQuestion (hostname : Str) : Nat → Cursor → Bool × List Access
  | 0, _ => (false, [])
  | count + 1, cursor =>
    let ((matched, cursor), named) := nameMatches hostname cursor
    let ((qtype, cursor), typed) := u16 cursor
    let ((qclass, cursor), classed) := u16 cursor
    let log := named ++ typed ++ classed
    match qtype, qclass with
    | some qtype, some qclass =>
      if matched = some true ∧ qtype = TYPE_A ∧ qclass &&& CLASS_MASK = CLASS_IN then
        (true, log)
      else
        let (found, rest) := matchesQuestion hostname count cursor
        (found, log ++ rest)
    | _, _ => (false, log)

def questions : Nat → Traced Unit
  | 0 => pure ()
  | count + 1 => do
    skipName
    let _qtype ← u16
    let _qclass ← u16
    questions count

def answers (label : Str) : Nat → Traced Ipv4Address
  | 0 => fail
  | count + 1 => do
    let matched ← nameMatches label
    let rtype ← u16
    let _rclass ← u16
    let _ttl ← u32
    let rdlen ← u16
    if matched = true ∧ rtype = TYPE_A ∧ rdlen.toNat = 4 then
      let a ← u8
      let b ← u8
      let c ← u8
      let d ← u8
      return Ipv4Address.new a b c d
    else
      skip rdlen.toNat
      answers label count

/-- The accesses of a call: the indices into the header, and then those of the cursor. -/
structure Log where
  header : List Nat
  cursor : List Access

def isQueryFor (packet : List UInt8) (hostname : Str) : Bool × Log :=
  let (reader, header) := new packet
  match reader with
  | none => (false, ⟨header, []⟩)
  | some reader =>
    if reader.flags &&& 0x8000 ≠ 0 then (false, ⟨header, []⟩)
    else
      let (found, log) := matchesQuestion hostname reader.qdcount.toNat reader.toCursor
      (found, ⟨header, log⟩)

def parseAnswer (packet : List UInt8) (label : Str) : Option Ipv4Address × Log :=
  let (reader, header) := new packet
  match reader with
  | none => (none, ⟨header, []⟩)
  | some reader =>
    if reader.flags &&& 0x8000 = 0 then (none, ⟨header, []⟩)
    else
      let scan := do
        questions reader.qdcount.toNat
        answers label reader.ancount.toNat
      let ((ip, _), log) := scan reader.toCursor
      (ip, ⟨header, log⟩)

/-! ## The accesses change nothing -/

theorem new_erases (packet : List UInt8) : (new packet).1 = Reader.new packet := by
  rw [new]
  split
  case isTrue short => rw [Reader.new_short short]
  case isFalse long =>
    iterate 12
      rcases packet with - | ⟨_, packet⟩
      · simp at long
    rfl

theorem skipName_erases : Erases skipName Read.skipName := by
  intro cursor
  fun_induction skipName cursor with
  | case1 cursor after log read => exact (skipName_exhausted (Prod.mk.inj read).1).symm
  | case2 cursor len afterLen log read pointer second after last next =>
      rw [skipName_pointer (Prod.mk.inj read).1 pointer, (Prod.mk.inj next).1]
      rfl
  | case3 cursor len afterLen log read pointer after last next =>
      rw [skipName_pointer (Prod.mk.inj read).1 pointer, (Prod.mk.inj next).1]
      rfl
  | case4 cursor after log read => exact (skipName_end (Prod.mk.inj read).1).symm
  | case5 cursor len afterLen log read plain clear nonzero after skipped moved result rest
      ran induction =>
      rw [skipName_label (Prod.mk.inj read).1 clear nonzero (Prod.mk.inj moved).1,
        ← induction, ran]
  | case6 cursor len afterLen log read plain clear nonzero after skipped moved =>
      exact (skipName_cut (Prod.mk.inj read).1 clear nonzero (Prod.mk.inj moved).1).symm
  | case7 cursor len after log read plain reserved =>
      exact (skipName_reserved (Prod.mk.inj read).1 plain reserved).symm

theorem nameMatchesFrom_erases (expected : List Str) (idx : Nat) :
    Erases (nameMatchesFrom expected idx) (Read.nameMatchesFrom expected idx) := by
  intro cursor
  fun_induction nameMatchesFrom expected idx cursor with
  | case1 idx cursor after log read =>
      exact (nameMatchesFrom_exhausted (Prod.mk.inj read).1).symm
  | case2 idx cursor len afterLen log read pointer second after last next =>
      rw [nameMatchesFrom_pointer (Prod.mk.inj read).1 pointer, (Prod.mk.inj next).1]
  | case3 idx cursor after log read =>
      exact (nameMatchesFrom_end (Prod.mk.inj read).1).symm
  | case4 idx cursor len afterLen log read plain nonzero after skipped moved =>
      exact (nameMatchesFrom_cut (Prod.mk.inj read).1 plain nonzero
        (Prod.mk.inj moved).1).symm
  | case5 idx cursor len afterLen log read plain nonzero start after skipped moved got last
      sliced slicing result rest ran induction =>
      rcases Read.skip_some (Prod.mk.inj moved).1 with ⟨-, rfl⟩
      cases slicing
      rw [ran] at induction
      rw [nameMatchesFrom_label (Prod.mk.inj read).1 plain nonzero (Prod.mk.inj moved).1]
      exact induction

theorem nameMatches_erases (label : Str) :
    Erases (nameMatches label) (Read.nameMatches label) :=
  nameMatchesFrom_erases _ _

theorem matchesQuestion_erases (hostname : Str) (count : Nat) (cursor : Cursor) :
    (matchesQuestion hostname count cursor).1 =
      Mdns.matchesQuestion hostname count cursor := by
  fun_induction matchesQuestion hostname count cursor with
  | case1 => rfl
  | case2 count cursor matched afterName named ranName afterType typed afterClass classed log
      qtype qclass met ranType ranClass =>
      rw [matchesQuestion_of_reads ((nameMatches_erases hostname).run ranName)
        (Erases.u16.run ranType) (Erases.u16.run ranClass), if_pos met]
  | case3 count cursor matched afterName named ranName afterType typed afterClass classed log
      qtype qclass mismatch found rest ran ranType ranClass induction =>
      rw [matchesQuestion_of_reads ((nameMatches_erases hostname).run ranName)
        (Erases.u16.run ranType) (Erases.u16.run ranClass), if_neg mismatch, ← induction, ran]
  | case4 count cursor matched afterName named ranName qtype afterType typed ranType qclass
      afterClass classed ranClass log missing =>
      simp only [Mdns.matchesQuestion, (nameMatches_erases hostname).run ranName,
        Erases.u16.run ranType, Erases.u16.run ranClass]

theorem questions_erases (count : Nat) :
    Erases (questions count) (Read.questions count) := by
  induction count with
  | zero => exact Erases.pure ()
  | succ count induction =>
      exact skipName_erases.bind fun _ => Erases.u16.bind fun _ => Erases.u16.bind fun _ =>
        induction

theorem answers_erases (label : Str) (count : Nat) :
    Erases (answers label count) (Read.answers label count) := by
  induction count with
  | zero => exact Erases.fail
  | succ count induction =>
      refine (nameMatches_erases label).bind fun matched => ?_
      refine Erases.u16.bind fun rtype => ?_
      refine Erases.u16.bind fun _ => ?_
      refine Erases.u32.bind fun _ => ?_
      refine Erases.u16.bind fun rdlen => ?_
      by_cases hit : matched = true ∧ rtype = TYPE_A ∧ rdlen.toNat = 4
      · simp only [if_pos hit]
        exact Erases.u8.bind fun _ => Erases.u8.bind fun _ => Erases.u8.bind fun _ =>
          Erases.u8.bind fun _ => Erases.pure _
      · simp only [if_neg hit]
        exact (Erases.skip _).bind fun _ => induction

theorem isQueryFor_erases (packet : List UInt8) (hostname : Str) :
    (isQueryFor packet hostname).1 = Mdns.isQueryFor packet hostname := by
  have opened := new_erases packet
  rw [isQueryFor, Mdns.isQueryFor, ← opened]
  rcases new packet with ⟨- | reader, header⟩
  · rfl
  · simp only
    split
    · rfl
    · rw [← matchesQuestion_erases]

theorem parseAnswer_erases (packet : List UInt8) (label : Str) :
    (parseAnswer packet label).1 = Mdns.parseAnswer packet label := by
  have opened := new_erases packet
  have scan (reader : Reader) := ((questions_erases reader.qdcount.toNat).bind fun _ =>
    answers_erases label reader.ancount.toNat) reader.toCursor
  rcases began : new packet with ⟨- | reader, header⟩
  · rw [began] at opened
    rw [parseAnswer, Mdns.parseAnswer, began, ← opened]
    rfl
  · rw [began] at opened
    rw [parseAnswer, began, parseAnswer_of_new opened.symm, ← scan]
    simp only
    split <;> rfl

/-! ## The accesses are sound -/

theorem lengthByte_small (len : UInt8) : len.toNat ≤ 65535 :=
  Nat.le_trans (Nat.le_of_lt len.toNat_lt) (by decide)

/-- The slice of a label, up to the cursor that has just skipped it. -/
theorem guarded_slice {cursor : Cursor} {start : Nat} (ready : Ready cursor)
    (ordered : start ≤ cursor.pos) : Sound cursor cursor [.slice start cursor.pos] :=
  Sound.one rfl rfl rfl ⟨ordered, ready.inside⟩
    (Nat.le_trans ready.inside (fits_of_le_isize ready.fits)) (fun _ => ready.inside)
    (by simp [Access.ok]) (Nat.le_add_right_of_le ready.inside)

/-- The two bytes of a pointer. -/
theorem pointer_sound {cursor afterLen after : Cursor} {len : UInt8} {second : Option UInt8}
    {log last : List Access} (ready : Ready cursor) (read : u8 cursor = ((some len, afterLen), log))
    (next : u8 afterLen = ((second, after), last)) :
    Sound cursor after (log ++ last) ∧
      (second.isSome → ∀ access ∈ log ++ last, access.ok = true) :=
  Guarded.u8.followed Strict.u8 Guarded.u8 Strict.u8 ready read next

/-- A length byte and the label that it skips. -/
theorem label_sound {cursor afterLen after : Cursor} {len : UInt8} {result : Option Unit}
    {log skipped : List Access} (ready : Ready cursor)
    (read : u8 cursor = ((some len, afterLen), log))
    (moved : skip len.toNat afterLen = ((result, after), skipped)) :
    Sound cursor after (log ++ skipped) ∧
      (result.isSome → ∀ access ∈ log ++ skipped, access.ok = true) :=
  Guarded.u8.followed Strict.u8 (Guarded.skip (lengthByte_small len)) (Strict.skip _) ready read
    moved

theorem skipName_sound (cursor : Cursor) (ready : Ready cursor) :
    Sound cursor (skipName cursor).1.2 (skipName cursor).2 ∧
      ((skipName cursor).1.1.isSome → ∀ access ∈ (skipName cursor).2, access.ok = true) := by
  fun_induction skipName cursor with
  | case1 cursor after log read => exact ⟨Guarded.u8.sound ready read, by simp⟩
  | case2 cursor len afterLen log read pointer second after last next =>
      rcases pointer_sound ready read next with ⟨sound, all⟩
      exact ⟨sound, fun _ => all rfl⟩
  | case3 cursor len afterLen log read pointer after last next =>
      exact ⟨(pointer_sound ready read next).1, by simp⟩
  | case4 cursor after log read =>
      exact ⟨Guarded.u8.sound ready read, fun _ => Strict.u8 _ _ _ _ ready read⟩
  | case5 cursor len afterLen log read plain clear nonzero after skipped moved result rest
      ran induction =>
      rcases label_sound ready read moved with ⟨label, all⟩
      rcases induction (label.ready ready (all rfl)) with ⟨others, strict⟩
      rw [ran] at others strict
      exact ⟨label.append others (all rfl), fun ended =>
        List.forall_mem_append.mpr ⟨all rfl, strict ended⟩⟩
  | case6 cursor len afterLen log read plain clear nonzero after skipped moved =>
      exact ⟨(label_sound ready read moved).1, by simp⟩
  | case7 cursor len after log read plain reserved =>
      exact ⟨Guarded.u8.sound ready read, by simp⟩

theorem guarded_nameMatchesFrom (expected : List Str) (idx : Nat) :
    Guarded (nameMatchesFrom expected idx) := by
  intro cursor ready
  fun_induction nameMatchesFrom expected idx cursor with
  | case1 idx cursor after log read => exact Guarded.u8.sound ready read
  | case2 idx cursor len afterLen log read pointer second after last next =>
      exact (pointer_sound ready read next).1
  | case3 idx cursor after log read => exact Guarded.u8.sound ready read
  | case4 idx cursor len afterLen log read plain nonzero after skipped moved =>
      exact (label_sound ready read moved).1
  | case5 idx cursor len afterLen log read plain nonzero start after skipped moved got last
      sliced slicing result rest ran induction =>
      rcases label_sound ready read moved with ⟨label, all⟩
      have ready' := label.ready ready (all rfl)
      rcases Read.skip_some (Prod.mk.inj moved).1 with ⟨-, rfl⟩
      cases slicing
      have cut := label.append (guarded_slice ready' (Nat.le_add_right start _)) (all rfl)
      have allCut : ∀ access ∈ log ++ skipped ++ [.slice start (afterLen.pos + len.toNat)],
          access.ok = true :=
        List.forall_mem_append.mpr ⟨all rfl, by simp [Access.ok]⟩
      have others := induction ready'
      rw [ran] at others
      exact cut.append others allCut

theorem guarded_nameMatches (label : Str) : Guarded (nameMatches label) :=
  guarded_nameMatchesFrom _ _

theorem guarded_skipName : Guarded skipName :=
  fun cursor ready => (skipName_sound cursor ready).1

theorem strict_skipName : Strict skipName := by
  intro cursor value after log ready ran
  have strict := (skipName_sound cursor ready).2
  rw [ran] at strict
  exact strict rfl

theorem questions_safe (count : Nat) :
    Guarded (questions count) ∧ Strict (questions count) := by
  induction count with
  | zero => exact ⟨Guarded.pure (), Strict.pure ()⟩
  | succ count induction =>
      constructor
      · exact guarded_skipName.bind strict_skipName fun _ => Guarded.u16.bind Strict.u16 fun _ =>
          Guarded.u16.bind Strict.u16 fun _ => induction.1
      · exact .bind guarded_skipName strict_skipName fun _ => .bind Guarded.u16 Strict.u16
          fun _ => .bind Guarded.u16 Strict.u16 fun _ => induction.2

theorem guarded_answers (label : Str) (count : Nat) : Guarded (answers label count) := by
  induction count with
  | zero => exact fun _ ready => .refl ready
  | succ count induction =>
      refine (guarded_nameMatches label).bind_of_halts (fun _ => Halts.u16.bind) fun matched => ?_
      refine Guarded.u16.bind Strict.u16 fun rtype => ?_
      refine Guarded.u16.bind Strict.u16 fun _ => ?_
      refine Guarded.u32.bind Strict.u32 fun _ => ?_
      refine Guarded.u16.bind Strict.u16 fun rdlen => ?_
      by_cases hit : matched = true ∧ rtype = TYPE_A ∧ rdlen.toNat = 4
      · simp only [if_pos hit]
        exact Guarded.u8.bind Strict.u8 fun _ => Guarded.u8.bind Strict.u8 fun _ =>
          Guarded.u8.bind Strict.u8 fun _ => Guarded.u8.bind Strict.u8 fun _ =>
            Guarded.pure _
      · have small : rdlen.toNat ≤ 65535 := Nat.le_of_lt_succ rdlen.toNat_lt
        simp only [if_neg hit]
        exact (Guarded.skip small).bind (Strict.skip _) fun _ => induction

/-- Two fields read one after the other, the second also when the first is missing. -/
theorem fields_sound {cursor afterType afterClass : Cursor} {qtype qclass : Option UInt16}
    {typed classed : List Access} (ready : Ready cursor)
    (ranType : u16 cursor = ((qtype, afterType), typed))
    (ranClass : u16 afterType = ((qclass, afterClass), classed)) :
    Sound cursor afterClass (typed ++ classed) ∧
      (qtype.isSome → qclass.isSome → ∀ access ∈ typed ++ classed, access.ok = true) := by
  cases qtype with
  | none =>
      have exhausted := Drains.u16 _ _ _ ranType
      rw [Halts.u16 afterType exhausted] at ranClass
      cases ranClass
      exact ⟨(Guarded.u16.sound ready ranType).stop ready exhausted, by simp⟩
  | some qtype =>
      rcases Guarded.u16.followed Strict.u16 Guarded.u16 Strict.u16 ready ranType ranClass with
        ⟨sound, all⟩
      exact ⟨sound, fun _ => all⟩

/-- A question: the name may be cut short, and the two fields are read all the same. -/
theorem question_sound {hostname : Str} {cursor afterName afterType afterClass : Cursor}
    {matched : Option Bool} {qtype qclass : Option UInt16} {named typed classed : List Access}
    (ready : Ready cursor) (ranName : nameMatches hostname cursor = ((matched, afterName), named))
    (ranType : u16 afterName = ((qtype, afterType), typed))
    (ranClass : u16 afterType = ((qclass, afterClass), classed)) :
    Sound cursor afterClass (named ++ typed ++ classed) ∧
      (qtype.isSome → qclass.isSome →
        ∀ access ∈ named ++ typed ++ classed, access.ok = true) := by
  have name := (guarded_nameMatches hostname).sound ready ranName
  rw [List.append_assoc]
  rcases name.all_or_exhausted with all | exhausted
  · rcases fields_sound (name.ready ready all) ranType ranClass with ⟨fields, strict⟩
    exact ⟨name.append fields all, fun someType someClass =>
      List.forall_mem_append.mpr ⟨all, strict someType someClass⟩⟩
  · rw [Halts.u16 afterName exhausted] at ranType
    cases ranType
    rw [Halts.u16 afterName exhausted] at ranClass
    cases ranClass
    rw [← List.append_assoc]
    exact ⟨(name.stop ready exhausted).stop ready exhausted, by simp⟩

theorem matchesQuestion_sound (hostname : Str) (count : Nat) (cursor : Cursor)
    (ready : Ready cursor) :
    ∃ after, Sound cursor after (matchesQuestion hostname count cursor).2 := by
  fun_induction matchesQuestion hostname count cursor with
  | case1 cursor => exact ⟨cursor, .refl ready⟩
  | case2 count cursor matched afterName named ranName afterType typed afterClass classed log
      qtype qclass met ranType ranClass =>
      exact ⟨afterClass, (question_sound ready ranName ranType ranClass).1⟩
  | case3 count cursor matched afterName named ranName afterType typed afterClass classed log
      qtype qclass mismatch found rest ran ranType ranClass induction =>
      rcases question_sound ready ranName ranType ranClass with ⟨question, strict⟩
      have all := strict rfl rfl
      rcases induction (question.ready ready all) with ⟨after, others⟩
      rw [ran] at others
      exact ⟨after, question.append others all⟩
  | case4 count cursor matched afterName named ranName qtype afterType typed ranType qclass
      afterClass classed ranClass log missing =>
      exact ⟨afterClass, (question_sound ready ranName ranType ranClass).1⟩

/-- The indices into the header that are read lie in the packet. -/
theorem new_indices (packet : List UInt8) : ∀ index ∈ (new packet).2, index < packet.length := by
  rw [new]
  split
  case isTrue => simp
  case isFalse long =>
    intro index member
    simp only [List.mem_cons, List.not_mem_nil, or_false] at member
    omega

theorem new_ready {packet : List UInt8} {reader : Reader} (fits : packet.length ≤ ISIZE_MAX)
    (opened : Reader.new packet = some reader) :
    reader.buf = packet ∧ Ready reader.toCursor := by
  have long : ¬packet.length < 12 := by
    intro short
    rw [Reader.new_short short] at opened
    cases opened
  iterate 12
    rcases packet with - | ⟨_, packet⟩
    · simp at long
  cases opened
  exact ⟨rfl, by simp, fits⟩

end Traced

/-! ## Every call is safe -/

/-- What a call does with a packet of this length. -/
structure Safe (length : Nat) (log : Traced.Log) : Prop where
  header : ∀ index ∈ log.header, index < length
  inside : ∀ access ∈ log.cursor, access.Inside length
  /-- No position overflows, whether there is a byte at it or not. -/
  bounded : ∀ access ∈ log.cursor, access.target ≤ USIZE_MAX
  onward : ∀ access ∈ log.cursor, access.pos ≤ access.after
  forward : log.cursor.Pairwise fun earlier later => earlier.after ≤ later.pos
  /-- After an access that fails all others fail. -/
  final : log.cursor.Pairwise fun earlier later => earlier.ok = false → later.ok = false

namespace Safe

variable {packet : List UInt8}

/-- The cursor has not been used. -/
theorem header_only (indices : ∀ index ∈ (Traced.new packet).2, index < packet.length) :
    Safe packet.length ⟨(Traced.new packet).2, []⟩ where
  header := indices
  inside := by simp
  bounded := by simp
  onward := by simp
  forward := List.Pairwise.nil
  final := List.Pairwise.nil

theorem of_sound {reader : Reader} {after : Cursor} {log : List Access}
    (whole : reader.buf = packet) (sound : Traced.Sound reader.toCursor after log) :
    Safe packet.length ⟨(Traced.new packet).2, log⟩ where
  header := Traced.new_indices packet
  inside := whole ▸ sound.inside
  bounded := sound.bounded
  onward := fun access _ => access.pos_le_after
  forward := sound.walk.forward
  final := sound.final

end Safe

theorem isQueryFor_safe {packet : List UInt8} (fits : packet.length ≤ ISIZE_MAX)
    (hostname : Str) : Safe packet.length (Traced.isQueryFor packet hostname).2 := by
  have unused := Safe.header_only (Traced.new_indices packet)
  have opened := Traced.new_erases packet
  rw [Traced.isQueryFor]
  rcases began : Traced.new packet with ⟨- | reader, header⟩
  · rw [began] at unused
    exact unused
  · rw [began] at opened unused
    simp only
    split
    · exact unused
    · rcases Traced.new_ready fits opened.symm with ⟨whole, ready⟩
      rcases Traced.matchesQuestion_sound hostname reader.qdcount.toNat _ ready with
        ⟨after, sound⟩
      have safe := Safe.of_sound whole sound
      rwa [began] at safe

theorem parseAnswer_safe {packet : List UInt8} (fits : packet.length ≤ ISIZE_MAX)
    (label : Str) : Safe packet.length (Traced.parseAnswer packet label).2 := by
  have unused := Safe.header_only (Traced.new_indices packet)
  have opened := Traced.new_erases packet
  rw [Traced.parseAnswer]
  rcases began : Traced.new packet with ⟨- | reader, header⟩
  · rw [began] at unused
    exact unused
  · rw [began] at opened unused
    simp only
    split
    · exact unused
    · rcases Traced.new_ready fits opened.symm with ⟨whole, ready⟩
      rcases Traced.questions_safe reader.qdcount.toNat with ⟨guarded, strict⟩
      have sound := guarded.bind strict
        (fun _ => Traced.guarded_answers label reader.ancount.toNat) _ ready
      have safe := Safe.of_sound whole sound
      rwa [began] at safe

/-- Whatever the packet is, the calls do what the parser does, and do it safely. -/
theorem parsers_are_safe (packet : List UInt8) (name : Str)
    (fits : packet.length ≤ ISIZE_MAX) :
    ((Traced.isQueryFor packet name).1 = isQueryFor packet name ∧
        Safe packet.length (Traced.isQueryFor packet name).2) ∧
      (Traced.parseAnswer packet name).1 = parseAnswer packet name ∧
        Safe packet.length (Traced.parseAnswer packet name).2 :=
  ⟨⟨Traced.isQueryFor_erases packet name, isQueryFor_safe fits name⟩,
    Traced.parseAnswer_erases packet name, parseAnswer_safe fits name⟩

/-- A response that ends inside the name of the second of its 65535 records: the name is
skipped past the end of the packet and the fields after it fail. -/
def cutPacket : List UInt8 :=
  [0, 0, 0x84, 0, 0, 0, 0xff, 0xff, 0, 0, 0, 0, 0, 0, 16, 0, 1, 0, 0, 0, 120, 0, 2, 7, 7, 9, 98]

theorem parsers_are_safe_cutPacket :
    ((Traced.isQueryFor cutPacket [98]).1 = isQueryFor cutPacket [98] ∧
        Safe cutPacket.length (Traced.isQueryFor cutPacket [98]).2) ∧
      (Traced.parseAnswer cutPacket [98]).1 = parseAnswer cutPacket [98] ∧
        Safe cutPacket.length (Traced.parseAnswer cutPacket [98]).2 :=
  parsers_are_safe cutPacket [98] (by decide)

end BeetEsp.Net.Mdns
