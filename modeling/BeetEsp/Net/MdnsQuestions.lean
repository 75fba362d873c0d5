import BeetEsp.Net.MdnsGrammar

/-! # Questions

What `is_query_for` decides about a packet whose questions are well formed, wherever the
packet ends.
-/

namespace BeetEsp.Net.Mdns

open Foundation

structure Question where
  name : Name
  qtype : UInt16
  qclass : UInt16

def Question.bytes (question : Question) : List UInt8 :=
  question.name.bytes ++ (u16Bytes question.qtype ++ u16Bytes question.qclass)

/-- The question is for the address of `hostname.local`. -/
def Question.Asks (question : Question) (hostname : Str) : Prop :=
  question.name.Is hostname ∧ question.qtype = TYPE_A ∧
    question.qclass &&& CLASS_MASK = CLASS_IN

instance (question : Question) (hostname : Str) : Decidable (question.Asks hostname) :=
  inferInstanceAs (Decidable (_ ∧ _))

/-! ## One question -/

/-- The two fields after the name of a question. -/
def Read.typeAndClass : Read (UInt16 × UInt16) := do
  let qtype ← Read.u16
  let qclass ← Read.u16
  return (qtype, qclass)

theorem reads_typeAndClass (qtype qclass : UInt16) :
    Reads Read.typeAndClass (qtype, qclass) (u16Bytes qtype ++ u16Bytes qclass) := by
  rw [← List.append_nil (u16Bytes qclass)]
  apply (Reads.u16_bytes qtype).bind
  apply (Reads.u16_bytes qclass).bind
  exact Reads.pure _

theorem starves_typeAndClass (qtype qclass : UInt16) :
    Starves Read.typeAndClass (u16Bytes qtype ++ u16Bytes qclass) := by
  rw [← List.append_nil (u16Bytes qclass)]
  apply Starves.bind (Reads.u16_bytes qtype) (Starves.u16 _ _)
  apply Starves.bind (Reads.u16_bytes qclass) (Starves.u16 _ _)
  exact Starves.nil

theorem needs_typeAndClass : Needs Read.typeAndClass := Needs.u16.bind

/-- One turn of the loop of `is_query_for`: whether the question asks for the host. -/
def Read.question (hostname : Str) : Read Bool := do
  let matched ← Read.nameMatches hostname
  let fields ← Read.typeAndClass
  return decide (matched = true ∧ fields.1 = TYPE_A ∧ fields.2 &&& CLASS_MASK = CLASS_IN)

/-- `name_matches` has an answer for every name, also for one that is cut short. -/
theorem nameMatchesFrom_answers (expected : List Str) (idx : Nat) (cursor : Cursor) :
    ∃ matched, (Read.nameMatchesFrom expected idx cursor).1 = some matched := by
  induction idx, cursor using Read.nameMatchesFrom.induct expected with
  | case1 idx cursor after read => exact ⟨_, by rw [nameMatchesFrom_exhausted read]⟩
  | case2 idx cursor len afterLen read pointer =>
      exact ⟨_, by rw [nameMatchesFrom_pointer read pointer]⟩
  | case3 idx cursor after read => exact ⟨_, by rw [nameMatchesFrom_end read]⟩
  | case4 idx cursor len afterLen read plain nonzero after skipped =>
      exact ⟨_, by rw [nameMatchesFrom_cut read plain nonzero skipped]⟩
  | case5 idx cursor len afterLen read plain nonzero start after skipped got induction =>
      rw [nameMatchesFrom_label read plain nonzero skipped]
      exact induction

theorem matchesQuestion_succ (hostname : Str) (count : Nat) (cursor : Cursor) :
    matchesQuestion hostname (count + 1) cursor =
      match Read.question hostname cursor with
      | (some asks, after) => asks || matchesQuestion hostname count after
      | (none, _) => false := by
  rcases nameMatchesFrom_answers [hostname, LOCAL] 0 cursor with ⟨matched, answers⟩
  rcases named : Read.nameMatches hostname cursor with ⟨found, afterName⟩
  rcases typed : Read.u16 afterName with ⟨qtype, afterType⟩
  rcases classed : Read.u16 afterType with ⟨qclass, afterClass⟩
  have answered : found = some matched := by
    rw [← answers]
    exact (congrArg Prod.fst named).symm
  subst answered
  cases qtype with
  | none =>
      have fields : Read.typeAndClass afterName = (none, afterType) := Read.bind_fails typed
      have question : Read.question hostname cursor = (none, afterType) := by
        rw [Read.question, Read.bind_some named, Read.bind_fails fields]
      simp only [matchesQuestion, named, typed, classed, question]
  | some qtype =>
      cases qclass with
      | none =>
          have fields : Read.typeAndClass afterName = (none, afterClass) := by
            rw [Read.typeAndClass, Read.bind_some typed, Read.bind_fails classed]
          have question : Read.question hostname cursor = (none, afterClass) := by
            rw [Read.question, Read.bind_some named, Read.bind_fails fields]
          simp only [matchesQuestion, named, typed, classed, question]
      | some qclass =>
          have fields : Read.typeAndClass afterName = (some (qtype, qclass), afterClass) := by
            rw [Read.typeAndClass, Read.bind_some typed, Read.bind_some classed]
            rfl
          have question : Read.question hostname cursor = (some (decide (matched = true ∧
              qtype = TYPE_A ∧ qclass &&& CLASS_MASK = CLASS_IN)), afterClass) := by
            rw [Read.question, Read.bind_some named, Read.bind_some fields]
            rfl
          rw [matchesQuestion_of_reads named typed classed, question]
          simp only [Option.some.injEq, Bool.if_true_left]

theorem reads_question (question : Question) (hostname : Str) :
    Reads (Read.question hostname) (decide (question.Asks hostname)) question.bytes := by
  have asks : question.Asks hostname ↔ decide (question.name.Is hostname) = true ∧
      question.qtype = TYPE_A ∧ question.qclass &&& CLASS_MASK = CLASS_IN := by
    rw [decide_eq_true_eq, Question.Asks]
  rw [decide_eq_decide.mpr asks, Question.bytes,
    ← List.append_nil (u16Bytes question.qtype ++ u16Bytes question.qclass)]
  apply (reads_nameMatches question.name hostname).bind
  apply (reads_typeAndClass question.qtype question.qclass).bind
  exact Reads.pure _

theorem starves_question (question : Question) (hostname : Str) :
    Starves (Read.question hostname) question.bytes := by
  rw [Question.bytes, ← List.append_nil (u16Bytes question.qtype ++ u16Bytes question.qclass)]
  apply Starves.bind_of_exhausts (reads_nameMatches question.name hostname)
    (exhausts_nameMatches question.name hostname) (fun _ => needs_typeAndClass.bind)
  apply Starves.bind (reads_typeAndClass question.qtype question.qclass)
    (starves_typeAndClass question.qtype question.qclass)
  exact Starves.nil

/-- One question in a packet that may end anywhere. -/
theorem matchesQuestion_question (question : Question) (hostname : Str) (count : Nat)
    (rest before : List UInt8) {length : Nat}
    (fits : (before ++ (question.bytes ++ rest).take length).length ≤ ISIZE_MAX) :
    matchesQuestion hostname (count + 1)
        ⟨before ++ (question.bytes ++ rest).take length, before.length⟩ =
      if question.bytes.length ≤ length then
        if question.Asks hostname then true
        else matchesQuestion hostname count
          ⟨(before ++ question.bytes) ++ rest.take (length - question.bytes.length),
            (before ++ question.bytes).length⟩
      else false := by
  rw [matchesQuestion_succ]
  by_cases enough : question.bytes.length ≤ length
  · rw [if_pos enough, (reads_question question hostname).run_front enough fits]
    simp only [Bool.if_true_left]
  · have inside := Nat.lt_of_not_le enough
    rw [List.take_append_of_le_length (Nat.le_of_lt inside)] at fits ⊢
    have failed := starves_question question hostname before length inside fits
    rcases read : Read.question hostname ⟨before ++ question.bytes.take length, before.length⟩
      with ⟨result, after⟩
    rw [read] at failed
    cases failed
    rw [if_neg enough]

/-! ## All questions -/

/-- The scan of `is_query_for` finds a match exactly among the questions that it counts
and the packet has in full. -/
theorem matchesQuestion_take {questions : List Question} {hostname : Str}
    {rest before : List UInt8} {count length : Nat}
    (walked : questions.length = count ∨ ∃ question ∈ questions, question.Asks hostname)
    (fits : (before ++ (questions.flatMap Question.bytes ++ rest).take length).length ≤
      ISIZE_MAX) :
    matchesQuestion hostname count
        ⟨before ++ (questions.flatMap Question.bytes ++ rest).take length,
          before.length⟩ = true ↔
      ∃ question ∈ (complete Question.bytes length questions).take count,
        question.Asks hostname := by
  induction questions generalizing count length before with
  | nil =>
      rcases walked with none | ⟨question, member, -⟩
      · rw [← none]
        simp [matchesQuestion]
      · cases member
  | cons question questions induction =>
      cases count with
      | zero => simp [matchesQuestion]
      | succ count =>
          rw [List.flatMap_cons, List.append_assoc] at fits ⊢
          rw [matchesQuestion_question question hostname count _ before fits, complete]
          by_cases enough : question.bytes.length ≤ length
          · rw [if_pos enough, if_pos enough, List.take_succ_cons]
            by_cases asks : question.Asks hostname
            · rw [if_pos asks]
              exact iff_of_true rfl ⟨question, List.mem_cons_self, asks⟩
            · have later : questions.length = count ∨
                  ∃ question ∈ questions, question.Asks hostname := by
                simpa [asks] using walked
              rw [List.take_append, List.take_of_length_le enough, ← List.append_assoc] at fits
              rw [if_neg asks, induction later fits]
              simp [asks]
          · rw [if_neg enough, if_neg enough]
            simp

/-- The packet has its header, that of a query, and among the questions it counts one that
asks for the host, with all of them up to that one in full. -/
def Asked (packet : List UInt8) (header : Header) (questions : List Question)
    (hostname : Str) : Prop :=
  header.bytes <+: packet ∧ header.IsQuery ∧
    ∃ before question after, questions = before ++ question :: after ∧
      before.length < header.qdcount.toNat ∧
      header.bytes ++ (before ++ [question]).flatMap Question.bytes <+: packet ∧
      question.Asks hostname

/-- For a packet that may end anywhere, `is_query_for` decides whether one of its
questions asks for the host, when the names it walks are well formed: those of all the
questions that are counted, or of all up to one that asks for the host. What follows
them may be anything. -/
theorem isQueryFor_iff_asked {packet rest : List UInt8} {header : Header}
    {questions : List Question} {hostname : Str} (fits : packet.length ≤ ISIZE_MAX)
    (cut : packet <+: header.bytes ++ (questions.flatMap Question.bytes ++ rest))
    (walked : header.IsQuery → questions.length = header.qdcount.toNat ∨
      ∃ question ∈ questions, question.Asks hostname) :
    isQueryFor packet hostname = true ↔ Asked packet header questions hostname := by
  have taken := List.prefix_iff_eq_take.mp cut
  rcases Reader.new_take header (questions.flatMap Question.bytes ++ rest) packet.length with
    ⟨short, refused⟩ | ⟨long, whole⟩
  · rw [← taken] at refused
    rw [isQueryFor, refused]
    refine iff_of_false (by simp) ?_
    intro asked
    exact absurd asked.1.length_le (Nat.not_le.mpr short)
  · rw [← taken] at whole
    have headed : header.bytes <+: packet := ⟨_, whole.symm⟩
    rw [isQueryFor_header whole]
    by_cases query : header.IsQuery
    · have scan := matchesQuestion_take (walked query) (whole ▸ fits)
      rw [← whole] at scan
      rw [if_pos query]
      refine scan.trans ?_
      constructor
      · intro found
        rcases found with ⟨question, member, asks⟩
        rcases mem_take_iff.mp member with ⟨before, back, split, early⟩
        rcases (complete_prefix_iff cut headed.length_le).mp ⟨back, split⟩ with
          ⟨⟨after, shape⟩, present⟩
        exact ⟨headed, query, before, question, after, shape, early, present, asks⟩
      · intro asked
        rcases asked with ⟨-, -, before, question, after, shape, early, present, asks⟩
        rcases (complete_prefix_iff cut headed.length_le).mpr ⟨⟨after, shape⟩, present⟩ with
          ⟨back, split⟩
        exact ⟨question, mem_take_iff.mpr ⟨before, back, split, early⟩, asks⟩
    · rw [if_neg query]
      exact iff_of_false (by simp) (fun asked => query asked.2.1)

/-- A question that a pointer ends, and then one for `be.local` with the bit for a unicast
response, in a packet that announces a third. -/
theorem isQueryFor_iff_asked_second :
    let header : Header := ⟨0, 0, 3, 0, 0, 0⟩
    let service : Question := ⟨⟨[], .pointer 0xc0 0x0c rfl⟩, 12, 1⟩
    let host : Question := ⟨⟨[⟨[0x42, 0x65], by decide, by decide⟩,
      ⟨LOCAL, by decide, by decide⟩], .root⟩, TYPE_A, 0x8001⟩
    let packet := header.bytes ++ [service, host].flatMap Question.bytes
    isQueryFor packet [0x62, 0x65] = true ↔
      Asked packet header [service, host] [0x62, 0x65] := by
  intro header service host packet
  have cut : packet <+: header.bytes ++ ([service, host].flatMap Question.bytes ++ []) :=
    ⟨[], by simp only [packet, List.append_nil]⟩
  exact isQueryFor_iff_asked (by decide) cut fun _ => .inr ⟨host, by simp, by decide⟩

end BeetEsp.Net.Mdns
