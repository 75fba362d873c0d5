import BeetEsp.Net.MdnsGrammar

/-! # The two walkers over names

`skip_name` and `name_matches` both walk a name to its end. Here is what stands at a
position of any buffer, read label by label, and where each of the walkers leaves the
cursor on it.
-/

namespace BeetEsp.Net.Mdns

open Foundation

/-! ## Names at a position -/

/-- From `start` up to `stop` the buffer holds labels with these length bytes, and a root
label or a pointer. Any length byte that is not the start of a pointer counts. -/
inductive NameAt (buf : List UInt8) : Nat → List UInt8 → Nat → Prop
  | root {start : Nat} (zero : buf[start]? = some 0) : NameAt buf start [] (start + 1)
  | pointer {start : Nat} {first : UInt8} (read : buf[start]? = some first)
      (marked : first &&& 0xc0 = 0xc0) (second : start + 1 < buf.length) :
      NameAt buf start [] (start + 2)
  | label {start stop : Nat} {len : UInt8} {lens : List UInt8}
      (read : buf[start]? = some len) (plain : len &&& 0xc0 ≠ 0xc0) (nonzero : len ≠ 0)
      (rest : NameAt buf (start + 1 + len.toNat) lens stop) :
      NameAt buf start (len :: lens) stop

namespace NameAt

variable {buf : List UInt8} {start stop : Nat} {lens : List UInt8}

theorem start_lt (name : NameAt buf start lens stop) : start < buf.length := by
  cases name with
  | root zero => exact (List.getElem?_eq_some_iff.mp zero).1
  | pointer read => exact (List.getElem?_eq_some_iff.mp read).1
  | label read => exact (List.getElem?_eq_some_iff.mp read).1

/-! ### By the byte at the position -/

theorem at_root (zero : buf[start]? = some 0) :
    NameAt buf start lens stop ↔ lens = [] ∧ stop = start + 1 := by
  constructor
  · intro name
    cases name with
    | root => exact ⟨rfl, rfl⟩
    | pointer read marked =>
        rw [zero, Option.some.injEq] at read
        subst read
        exact absurd marked (by decide)
    | label read plain nonzero =>
        rw [zero, Option.some.injEq] at read
        exact absurd read.symm nonzero
  · rintro ⟨rfl, rfl⟩
    exact .root zero

theorem at_pointer {first : UInt8} (read : buf[start]? = some first)
    (marked : first &&& 0xc0 = 0xc0) :
    NameAt buf start lens stop ↔
      lens = [] ∧ stop = start + 2 ∧ start + 1 < buf.length := by
  constructor
  · intro name
    cases name with
    | root zero =>
        rw [read, Option.some.injEq] at zero
        subst zero
        exact absurd marked (by decide)
    | pointer _ _ second => exact ⟨rfl, rfl, second⟩
    | label other plain =>
        rw [read, Option.some.injEq] at other
        subst other
        exact absurd marked plain
  · rintro ⟨rfl, rfl, second⟩
    exact .pointer read marked second

theorem at_label {len : UInt8} (read : buf[start]? = some len)
    (plain : len &&& 0xc0 ≠ 0xc0) (nonzero : len ≠ 0) :
    NameAt buf start lens stop ↔
      ∃ rest, lens = len :: rest ∧ NameAt buf (start + 1 + len.toNat) rest stop := by
  constructor
  · intro name
    cases name with
    | root zero =>
        rw [read, Option.some.injEq] at zero
        exact absurd zero nonzero
    | pointer other marked =>
        rw [read, Option.some.injEq] at other
        subst other
        exact absurd marked plain
    | label other _ _ rest =>
        rw [read, Option.some.injEq] at other
        subst other
        exact ⟨_, rfl, rest⟩
  · rintro ⟨rest, rfl, name⟩
    exact .label read plain nonzero name

/-- The bytes of the buffer decide what stands at a position. -/
theorem unique {otherStop : Nat} {otherLens : List UInt8}
    (name : NameAt buf start lens stop) (other : NameAt buf start otherLens otherStop) :
    lens = otherLens ∧ stop = otherStop := by
  induction name generalizing otherStop otherLens with
  | root zero =>
      rcases (at_root zero).mp other with ⟨rfl, rfl⟩
      exact ⟨rfl, rfl⟩
  | pointer read marked =>
      rcases (at_pointer read marked).mp other with ⟨rfl, rfl, -⟩
      exact ⟨rfl, rfl⟩
  | label read plain nonzero _ induction =>
      rcases (at_label read plain nonzero).mp other with ⟨rest, rfl, name⟩
      rcases induction name with ⟨rfl, rfl⟩
      exact ⟨rfl, rfl⟩

end NameAt

theorem clear_iff_short_byte : ∀ len < 256, UInt8.ofNat len &&& 0xc0 ≠ 0xc0 →
    (UInt8.ofNat len &&& 0xc0 = 0 ↔ UInt8.ofNat len ≤ 63) := by
  decide +kernel

/-- Of the length bytes that start no pointer, those of 64 and more have a reserved code. -/
theorem clear_iff_short {len : UInt8} (plain : len &&& 0xc0 ≠ 0xc0) :
    len &&& 0xc0 = 0 ↔ len ≤ 63 := by
  have byte := clear_iff_short_byte len.toNat len.toNat_lt
  rw [UInt8.ofNat_toNat] at byte
  exact byte plain

/-- The bytes of a label that a name goes on after are all there. -/
theorem NameAt.skip {buf : List UInt8} {start stop count : Nat} {lens : List UInt8}
    (rest : NameAt buf (start + count) lens stop) (fits : buf.length ≤ USIZE_MAX) :
    Read.skip count ⟨buf, start⟩ = (some (), ⟨buf, start + count⟩) := by
  have inside := rest.start_lt
  simp only [Read.skip]
  rw [if_neg (Nat.not_lt.mpr (Nat.le_trans (Nat.le_of_lt inside) fits)),
    if_neg (Nat.not_lt.mpr (Nat.le_of_lt inside))]

/-! ## `skip_name` -/

/-- `skip_name` steps over a name of labels of at most 63 bytes. -/
theorem NameAt.skipName {buf : List UInt8} {start stop : Nat} {lens : List UInt8}
    (name : NameAt buf start lens stop) (short : ∀ len ∈ lens, len ≤ 63)
    (fits : buf.length ≤ USIZE_MAX) :
    Read.skipName ⟨buf, start⟩ = (some (), ⟨buf, stop⟩) := by
  induction name with
  | root zero => exact skipName_end (Read.u8_at zero)
  | pointer read marked second =>
      rw [skipName_pointer (Read.u8_at read) marked,
        Read.u8_at (List.getElem?_eq_getElem second)]
      rfl
  | label read plain nonzero rest induction =>
      have clear := (clear_iff_short plain).mpr (short _ List.mem_cons_self)
      rw [skipName_label (Read.u8_at read) clear nonzero (rest.skip fits)]
      exact induction fun len member => short len (List.mem_cons_of_mem _ member)

/-- Where `skip_name` succeeds there is a name, and none of its labels has a reserved
code. -/
theorem nameAt_of_skipName {cursor after : Cursor}
    (skipped : Read.skipName cursor = (some (), after)) :
    ∃ lens, NameAt cursor.buf cursor.pos lens after.pos ∧ (∀ len ∈ lens, len ≤ 63) ∧
      after.buf = cursor.buf := by
  fun_induction Read.skipName cursor with
  | case1 | case3 | case6 | case7 => cases skipped
  | case2 cursor first afterFirst read marked second afterSecond last =>
      cases skipped
      rcases Read.at_of_u8 read with ⟨first, rfl⟩
      rcases Read.at_of_u8 last with ⟨second, rfl⟩
      exact ⟨[], .pointer first marked (List.getElem?_eq_some_iff.mp second).1, by simp, rfl⟩
  | case4 cursor afterLen read =>
      cases skipped
      rcases Read.at_of_u8 read with ⟨zero, rfl⟩
      exact ⟨[], .root zero, by simp, rfl⟩
  | case5 cursor len afterLen read plain clear nonzero afterLabel label induction =>
      rcases Read.at_of_u8 read with ⟨byte, rfl⟩
      rcases Read.skip_some label with ⟨-, rfl⟩
      rcases induction skipped with ⟨lens, rest, short, buffer⟩
      refine ⟨len :: lens, .label byte plain nonzero rest, ?_, buffer⟩
      intro other member
      rcases List.mem_cons.mp member with rfl | member
      · exact (clear_iff_short plain).mp clear
      · exact short other member

/-! ## `name_matches` -/

/-- The loop of `name_matches`, with its failed reads told apart: it has a value where it
has read a name to its end, and fails where a read of it fails. -/
def Read.wholeNameFrom (expected : List Str) (idx : Nat) : Read Bool := fun cursor =>
  match _ : Read.u8 cursor with
  | (none, cursor) => (none, cursor)
  | (some len, cursor) =>
    if len &&& 0xc0 = 0xc0 then
      match Read.u8 cursor with
      | (some _, cursor) => (some false, cursor)
      | (none, cursor) => (none, cursor)
    else if len = 0 then (some (idx == expected.length), cursor)
    else
      let start := cursor.pos
      match _ : Read.skip len.toNat cursor with
      | (none, cursor) => (none, cursor)
      | (some (), cursor) =>
        let got := cursor.buf.extract start (start + len.toNat)
        Read.wholeNameFrom expected
          (if labelMatches expected idx got then idx + 1 else USIZE_MAX) cursor
termination_by cursor => cursor.buf.length - cursor.pos
decreasing_by exact Read.remaining_lt (by assumption) (by assumption)

def Read.wholeName (label : Str) : Read Bool := Read.wholeNameFrom [label, LOCAL] 0

/-- `name_matches` answers `false` for a failed read, and is the same otherwise. -/
theorem nameMatchesFrom_eq_wholeNameFrom (expected : List Str) (idx : Nat)
    (cursor : Cursor) :
    Read.nameMatchesFrom expected idx cursor =
      (some ((Read.wholeNameFrom expected idx cursor).1.getD false),
        (Read.wholeNameFrom expected idx cursor).2) := by
  fun_induction Read.wholeNameFrom expected idx cursor with
  | case1 idx cursor after read => exact nameMatchesFrom_exhausted read
  | case2 idx cursor first afterFirst read marked second after last
  | case3 idx cursor first afterFirst read marked after last =>
      rw [nameMatchesFrom_pointer read marked, last]
      rfl
  | case4 idx cursor after read => exact nameMatchesFrom_end read
  | case5 idx cursor len afterLen read plain nonzero after label =>
      exact nameMatchesFrom_cut read plain nonzero label
  | case6 idx cursor len afterLen read plain nonzero start after label got induction =>
      rw [nameMatchesFrom_label read plain nonzero label]
      exact induction

theorem nameMatches_eq_wholeName (label : Str) (cursor : Cursor) :
    Read.nameMatches label cursor =
      (some ((Read.wholeName label cursor).1.getD false), (Read.wholeName label cursor).2) :=
  nameMatchesFrom_eq_wholeNameFrom [label, LOCAL] 0 cursor

/-- `name_matches` reads to its end every name that stands at the cursor, its labels of
any length. -/
theorem NameAt.wholeNameFrom {cursor : Cursor} {lens : List UInt8} {stop : Nat}
    (name : NameAt cursor.buf cursor.pos lens stop) (fits : cursor.buf.length ≤ USIZE_MAX)
    (expected : List Str) (idx : Nat) :
    ∃ answer, Read.wholeNameFrom expected idx cursor =
      (some answer, ⟨cursor.buf, stop⟩) := by
  fun_induction Read.wholeNameFrom expected idx cursor generalizing lens with
  | case1 idx cursor after read =>
      have byte := Read.u8_at (List.getElem?_eq_getElem name.start_lt)
      cases read.symm.trans byte
  | case2 idx cursor first afterFirst read marked second after last =>
      rcases Read.at_of_u8 read with ⟨byte, rfl⟩
      rcases Read.at_of_u8 last with ⟨-, rfl⟩
      rcases (at_pointer byte marked).mp name with ⟨-, rfl, -⟩
      exact ⟨false, rfl⟩
  | case3 idx cursor first afterFirst read marked after last =>
      rcases Read.at_of_u8 read with ⟨byte, rfl⟩
      rcases (at_pointer byte marked).mp name with ⟨-, -, inside⟩
      have second := Read.u8_at (List.getElem?_eq_getElem inside)
      cases last.symm.trans second
  | case4 idx cursor after read =>
      rcases Read.at_of_u8 read with ⟨zero, rfl⟩
      rcases (at_root zero).mp name with ⟨-, rfl⟩
      exact ⟨_, rfl⟩
  | case5 idx cursor len afterLen read plain nonzero after label =>
      rcases Read.at_of_u8 read with ⟨byte, rfl⟩
      rcases (at_label byte plain nonzero).mp name with ⟨_, -, rest⟩
      cases label.symm.trans (rest.skip fits)
  | case6 idx cursor len afterLen read plain nonzero start after label got =>
      rename_i induction
      rcases Read.at_of_u8 read with ⟨byte, rfl⟩
      rcases Read.skip_some label with ⟨-, rfl⟩
      rcases (at_label byte plain nonzero).mp name with ⟨_, -, rest⟩
      exact induction rest fits

/-- Where `name_matches` has read a name to its end there is one. -/
theorem nameAt_of_wholeNameFrom {expected : List Str} {idx : Nat} {cursor after : Cursor}
    {answer : Bool} (read : Read.wholeNameFrom expected idx cursor = (some answer, after)) :
    ∃ lens, NameAt cursor.buf cursor.pos lens after.pos ∧ after.buf = cursor.buf := by
  fun_induction Read.wholeNameFrom expected idx cursor with
  | case1 | case3 | case5 => cases read
  | case2 idx cursor first afterFirst found marked second after last =>
      cases read
      rcases Read.at_of_u8 found with ⟨first, rfl⟩
      rcases Read.at_of_u8 last with ⟨second, rfl⟩
      exact ⟨[], .pointer first marked (List.getElem?_eq_some_iff.mp second).1, rfl⟩
  | case4 idx cursor after found =>
      cases read
      rcases Read.at_of_u8 found with ⟨zero, rfl⟩
      exact ⟨[], .root zero, rfl⟩
  | case6 idx cursor len afterLen found plain nonzero start after label got induction =>
      rcases Read.at_of_u8 found with ⟨byte, rfl⟩
      rcases Read.skip_some label with ⟨-, rfl⟩
      rcases induction read with ⟨lens, rest, buffer⟩
      exact ⟨len :: lens, .label byte plain nonzero rest, buffer⟩

/-! ## Both walkers -/

/-- `skip_name` succeeds where `name_matches` reads a name to its end, and then both stop
at one position. -/
structure WalkersAgree (label : Str) (cursor : Cursor) : Prop where
  success : (Read.skipName cursor).1.isSome ↔ (Read.wholeName label cursor).1.isSome
  together : (Read.skipName cursor).1.isSome →
    (Read.skipName cursor).2 = (Read.nameMatches label cursor).2

/-- What stands at the cursor, if it is a name, has no length byte with a reserved code. -/
def NoReserved (cursor : Cursor) : Prop :=
  ∀ lens stop, NameAt cursor.buf cursor.pos lens stop → ∀ len ∈ lens, len ≤ 63

theorem skipName_isSome_iff {cursor : Cursor} (fits : cursor.buf.length ≤ USIZE_MAX) :
    (Read.skipName cursor).1.isSome ↔
      ∃ lens stop, NameAt cursor.buf cursor.pos lens stop ∧ ∀ len ∈ lens, len ≤ 63 := by
  constructor
  · intro skips
    rcases ran : Read.skipName cursor with ⟨- | _, after⟩
    · rw [ran] at skips
      cases skips
    · rcases nameAt_of_skipName ran with ⟨lens, name, short, -⟩
      exact ⟨lens, after.pos, name, short⟩
  · rintro ⟨lens, stop, name, short⟩
    rw [name.skipName short fits]
    rfl

theorem wholeName_isSome_iff {label : Str} {cursor : Cursor}
    (fits : cursor.buf.length ≤ USIZE_MAX) :
    (Read.wholeName label cursor).1.isSome ↔
      ∃ lens stop, NameAt cursor.buf cursor.pos lens stop := by
  constructor
  · intro reads
    rcases ran : Read.wholeName label cursor with ⟨- | answer, after⟩
    · rw [ran] at reads
      cases reads
    · rcases nameAt_of_wholeNameFrom ran with ⟨lens, name, -⟩
      exact ⟨lens, after.pos, name⟩
  · rintro ⟨lens, stop, name⟩
    rcases name.wholeNameFrom fits [label, LOCAL] 0 with ⟨answer, whole⟩
    rw [Read.wholeName, whole]
    rfl

/-- Where `skip_name` succeeds, `name_matches` leaves the cursor at the same position,
whatever it answers. -/
theorem nameMatches_stops_with_skipName {cursor after : Cursor} (label : Str)
    (fits : cursor.buf.length ≤ USIZE_MAX)
    (skipped : Read.skipName cursor = (some (), after)) :
    (Read.nameMatches label cursor).2 = after := by
  rcases nameAt_of_skipName skipped with ⟨lens, name, -, buffer⟩
  rcases name.wholeNameFrom fits [label, LOCAL] 0 with ⟨answer, whole⟩
  rw [nameMatches_eq_wholeName, Read.wholeName, whole, ← buffer]

/-- The walkers part on exactly the names with a reserved code, which `skip_name` refuses
and `name_matches` reads as labels of 64 to 191 bytes. -/
theorem walkers_agree_iff (label : Str) (cursor : Cursor)
    (fits : cursor.buf.length ≤ USIZE_MAX) :
    WalkersAgree label cursor ↔ NoReserved cursor := by
  constructor
  · intro agree lens stop name
    have reads : (Read.wholeName label cursor).1.isSome :=
      (wholeName_isSome_iff fits).mpr ⟨lens, stop, name⟩
    have skips := agree.success.mpr reads
    rcases (skipName_isSome_iff fits).mp skips with ⟨shortLens, shortStop, other, short⟩
    rcases name.unique other with ⟨rfl, -⟩
    exact short
  · intro noReserved
    constructor
    · rw [skipName_isSome_iff fits, wholeName_isSome_iff fits]
      constructor
      · rintro ⟨lens, stop, name, -⟩
        exact ⟨lens, stop, name⟩
      · rintro ⟨lens, stop, name⟩
        exact ⟨lens, stop, name, noReserved lens stop name⟩
    · intro skips
      rcases ran : Read.skipName cursor with ⟨- | _, after⟩
      · rw [ran] at skips
        cases skips
      · exact (nameMatches_stops_with_skipName label fits ran).symm

/-- `esp.local` -/
def espLocal : List UInt8 := 3 :: [0x65, 0x73, 0x70] ++ 5 :: LOCAL ++ [0]

/-- Both walkers read its two labels, whether the name is the one asked for or not. -/
theorem walkers_agree_host : NoReserved ⟨espLocal, 0⟩ ∧
    (Read.skipName ⟨espLocal, 0⟩).1.isSome ∧ WalkersAgree [0x65, 0x73, 0x70] ⟨espLocal, 0⟩ ∧
    WalkersAgree LOCAL ⟨espLocal, 0⟩ := by
  have name : NameAt espLocal 0 [3, 5] 11 :=
    .label rfl (by decide) (by decide) (.label rfl (by decide) (by decide) (.root rfl))
  have short : ∀ len ∈ [3, 5], len ≤ (63 : UInt8) := by simp
  have noReserved : NoReserved ⟨espLocal, 0⟩ := by
    intro lens stop other
    rw [← (name.unique other).1]
    exact short
  refine ⟨noReserved, (skipName_isSome_iff (by decide)).mpr ⟨_, _, name, short⟩, ?_, ?_⟩
  · exact (walkers_agree_iff [0x65, 0x73, 0x70] ⟨espLocal, 0⟩ (by decide)).mpr noReserved
  · exact (walkers_agree_iff LOCAL ⟨espLocal, 0⟩ (by decide)).mpr noReserved

/-- A label of 64 bytes: `name_matches` steps over it, and `skip_name` refuses it. -/
theorem walkers_part_on_reserved :
    ¬WalkersAgree LOCAL ⟨0x40 :: List.replicate 64 0x61 ++ [0], 0⟩ := by
  intro agree
  have skipped : (Read.skipName ⟨0x40 :: List.replicate 64 0x61 ++ [0], 0⟩).1 = none := by
    rw [skipName_reserved (Read.u8_at rfl) (by decide) (by decide)]
  have name : NameAt (0x40 :: List.replicate 64 0x61 ++ [0]) 0 [0x40] 66 :=
    .label rfl (by decide) (by decide) (.root rfl)
  have reads : (Read.wholeName LOCAL ⟨0x40 :: List.replicate 64 0x61 ++ [0], 0⟩).1.isSome :=
    (wholeName_isSome_iff (by decide)).mpr ⟨_, _, name⟩
  have skips := agree.success.mpr reads
  rw [skipped] at skips
  cases skips

end BeetEsp.Net.Mdns
