import BeetEsp.Foundation.CutShort

/-! # Traces of a cursor

Readers that also note each access to the buffer. A traced reader is sound when the
accesses it notes follow the cursor forward, stay in the buffer, overflow nowhere and,
once one of them has failed, all fail.
-/

namespace Foundation

/-- An access to the buffer, at the position of the cursor. -/
inductive Access
  | byte (pos : Nat) (ok : Bool)
  | skip (pos count : Nat) (ok : Bool)
  /-- The bytes from `start` up to the cursor. -/
  | slice (start pos : Nat)

namespace Access

/-- Where the cursor is before the access. -/
def pos : Access → Nat
  | byte pos _ => pos
  | skip pos _ _ => pos
  | slice _ pos => pos

/-- The position that is computed for the access. -/
def target : Access → Nat
  | byte pos ok => if ok then pos + 1 else pos
  | skip pos count _ => pos + count
  | slice _ pos => pos

/-- Where the cursor is after the access. A byte that is not there leaves it alone. -/
def after : Access → Nat
  | byte pos ok => if ok then pos + 1 else pos
  | skip pos count _ => if USIZE_MAX < pos + count then pos else pos + count
  | slice _ pos => pos

def ok : Access → Bool
  | byte _ ok => ok
  | skip _ _ ok => ok
  | slice _ _ => true

/-- What is accessed lies in a buffer of this length. -/
def Inside (length : Nat) : Access → Prop
  | byte pos ok => ok = true → pos < length
  | skip pos count ok => ok = true → pos + count ≤ length
  | slice start pos => start ≤ pos ∧ pos ≤ length

theorem pos_le_after (access : Access) : access.pos ≤ access.after := by
  cases access with
  | byte pos ok => cases ok <;> simp [Access.pos, after]
  | skip pos count ok =>
      simp only [Access.pos, after]
      split <;> omega
  | slice start pos => exact Nat.le_refl _

end Access

/-- Each access starts where the one before it leaves the cursor. -/
def Walk : Nat → List Access → Nat → Prop
  | start, [], stop => start = stop
  | start, access :: log, stop => access.pos = start ∧ Walk access.after log stop

theorem Walk.append {start middle stop : Nat} {front back : List Access}
    (first : Walk start front middle) (second : Walk middle back stop) :
    Walk start (front ++ back) stop := by
  induction front generalizing start with
  | nil =>
      cases first
      exact second
  | cons access front induction => exact ⟨first.1, induction first.2⟩

theorem Walk.le_pos {start stop : Nat} {log : List Access} (walk : Walk start log stop) :
    ∀ access ∈ log, start ≤ access.pos := by
  induction log generalizing start with
  | nil => simp
  | cons access log induction =>
      intro other member
      rcases walk with ⟨rfl, rest⟩
      rcases List.mem_cons.mp member with rfl | later
      · exact Nat.le_refl _
      · exact Nat.le_trans access.pos_le_after (induction rest other later)

/-- The cursor never moves backwards. -/
theorem Walk.forward {start stop : Nat} {log : List Access} (walk : Walk start log stop) :
    log.Pairwise fun earlier later => earlier.after ≤ later.pos := by
  induction log generalizing start with
  | nil => exact List.Pairwise.nil
  | cons access log induction =>
      exact List.Pairwise.cons (walk.2.le_pos) (induction walk.2)

/-- The reader with the accesses it makes. -/
def Traced (Value : Type) := Cursor → (Option Value × Cursor) × List Access

namespace Traced

instance : Monad Traced where
  pure value := fun cursor => ((some value, cursor), [])
  bind read next := fun cursor =>
    match read cursor with
    | ((some value, cursor), log) =>
        let (result, rest) := next value cursor
        (result, log ++ rest)
    | ((none, cursor), log) => ((none, cursor), log)

def fail {Value : Type} : Traced Value := fun cursor => ((none, cursor), [])

def u8 : Traced UInt8 := fun cursor =>
  (Read.u8 cursor, [.byte cursor.pos (Read.u8 cursor).1.isSome])

def u16 : Traced UInt16 := do
  let high ← u8
  let low ← u8
  return beU16 high low

def u32 : Traced UInt32 := do
  let first ← u8
  let second ← u8
  let third ← u8
  let fourth ← u8
  return beU32 first second third fourth

def skip (count : Nat) : Traced Unit := fun cursor =>
  (Read.skip count cursor, [.skip cursor.pos count (Read.skip count cursor).1.isSome])

/-- The bytes from `start` up to the cursor. -/
def slice (start : Nat) : Traced (List UInt8) := fun cursor =>
  ((some (cursor.buf.extract start cursor.pos), cursor), [.slice start cursor.pos])

section

variable {Value Result : Type} {read : Traced Value} {next : Value → Traced Result}
  {cursor after : Cursor} {log : List Access}

theorem bind_none (ran : read cursor = ((none, after), log)) :
    (read >>= next) cursor = ((none, after), log) := by
  simp only [bind, ran]

theorem bind_some {value : Value} (ran : read cursor = ((some value, after), log)) :
    (read >>= next) cursor = ((next value after).1, log ++ (next value after).2) := by
  simp only [bind, ran]

end

/-- The traced reader does what the reader does. -/
def Erases {Value : Type} (traced : Traced Value) (read : Read Value) : Prop :=
  ∀ cursor, (traced cursor).1 = read cursor

namespace Erases

variable {Value Result : Type}

theorem run {traced : Traced Value} {read : Read Value} {cursor : Cursor}
    {result : Option Value × Cursor} {log : List Access} (erases : Erases traced read)
    (ran : traced cursor = (result, log)) : read cursor = result := by
  rw [← erases cursor, ran]

theorem pure (value : Value) : Erases (pure value) (pure value) := fun _ => rfl

theorem fail : Erases (Traced.fail : Traced Value) Read.fail := fun _ => rfl

theorem u8 : Erases Traced.u8 Read.u8 := fun _ => rfl

theorem skip (count : Nat) : Erases (Traced.skip count) (Read.skip count) := fun _ => rfl

theorem bind {traced : Traced Value} {read : Read Value} {next : Value → Traced Result}
    {next' : Value → Read Result} (first : Erases traced read)
    (second : ∀ value, Erases (next value) (next' value)) :
    Erases (traced >>= next) (read >>= next') := by
  intro cursor
  have same := first cursor
  rcases ran : traced cursor with ⟨⟨- | value, after⟩, log⟩
  · rw [ran] at same
    rw [Traced.bind_none ran, Read.bind_fails same.symm]
  · rw [ran] at same
    rw [Traced.bind_some ran, Read.bind_some same.symm, ← second value after]

theorem u16 : Erases Traced.u16 Read.u16 :=
  u8.bind fun _ => u8.bind fun _ => pure _

theorem u32 : Erases Traced.u32 Read.u32 :=
  u8.bind fun _ => u8.bind fun _ => u8.bind fun _ => u8.bind fun _ => pure _

end Erases

/-! ## Soundness -/

/-- A cursor inside a slice. -/
structure Ready (cursor : Cursor) : Prop where
  inside : cursor.pos ≤ cursor.buf.length
  fits : cursor.buf.length ≤ ISIZE_MAX

/-- What the accesses on the way from one cursor to another must be. -/
structure Sound (cursor after : Cursor) (log : List Access) : Prop where
  buf : after.buf = cursor.buf
  walk : Walk cursor.pos log after.pos
  inside : ∀ access ∈ log, access.Inside cursor.buf.length
  bounded : ∀ access ∈ log, access.target ≤ USIZE_MAX
  final : log.Pairwise fun earlier later => earlier.ok = false → later.ok = false
  /-- As long as no access fails, the cursor stays in the buffer. -/
  within : (∀ access ∈ log, access.ok = true) → after.pos ≤ cursor.buf.length
  exhausted : ∀ access ∈ log, access.ok = false → after.Exhausted
  near : after.pos ≤ cursor.buf.length + 65535

theorem Sound.refl {cursor : Cursor} (ready : Ready cursor) : Sound cursor cursor [] where
  buf := rfl
  walk := rfl
  inside := by simp
  bounded := by simp
  final := List.Pairwise.nil
  within := fun _ => ready.inside
  exhausted := by simp
  near := Nat.le_add_right_of_le ready.inside

/-- A single access. -/
theorem Sound.one {cursor after : Cursor} {access : Access} (buf : after.buf = cursor.buf)
    (starts : access.pos = cursor.pos) (ends : access.after = after.pos)
    (inside : access.Inside cursor.buf.length) (bounded : access.target ≤ USIZE_MAX)
    (within : access.ok = true → after.pos ≤ cursor.buf.length)
    (exhausted : access.ok = false → after.Exhausted)
    (near : after.pos ≤ cursor.buf.length + 65535) : Sound cursor after [access] where
  buf := buf
  walk := ⟨starts, ends⟩
  inside := List.forall_mem_singleton.mpr inside
  bounded := List.forall_mem_singleton.mpr bounded
  final := List.pairwise_singleton _ _
  within := fun all => within (all access List.mem_cons_self)
  exhausted := List.forall_mem_singleton.mpr exhausted
  near := near

theorem Sound.ready {cursor after : Cursor} {log : List Access}
    (sound : Sound cursor after log) (ready : Ready cursor)
    (all : ∀ access ∈ log, access.ok = true) : Ready after where
  inside := by
    rw [sound.buf]
    exact sound.within all
  fits := by
    rw [sound.buf]
    exact ready.fits

theorem Sound.all_or_exhausted {cursor after : Cursor} {log : List Access}
    (sound : Sound cursor after log) :
    (∀ access ∈ log, access.ok = true) ∨ after.Exhausted := by
  by_cases all : ∀ access ∈ log, access.ok = true
  · exact .inl all
  · simp only [not_forall] at all
    rcases all with ⟨access, member, failed⟩
    exact .inr (sound.exhausted access member (by simpa using failed))

/-- Accesses that go on from where others have led without failing. -/
theorem Sound.append {cursor middle after : Cursor} {front back : List Access}
    (first : Sound cursor middle front) (second : Sound middle after back)
    (all : ∀ access ∈ front, access.ok = true) : Sound cursor after (front ++ back) where
  buf := second.buf.trans first.buf
  walk := first.walk.append second.walk
  inside := by
    have inside := second.inside
    rw [first.buf] at inside
    exact fun access member => (List.mem_append.mp member).elim
      (first.inside access) (inside access)
  bounded := fun access member => (List.mem_append.mp member).elim
    (first.bounded access) (second.bounded access)
  final := by
    refine List.pairwise_append.mpr ⟨first.final, second.final, ?_⟩
    intro earlier member later _ failed
    rw [all earlier member] at failed
    cases failed
  within := by
    intro allBack
    rw [← first.buf]
    exact second.within fun access member => allBack access (List.mem_append_right _ member)
  exhausted := by
    intro access member failed
    rcases List.mem_append.mp member with early | late
    · rw [all access early] at failed
      cases failed
    · exact second.exhausted access late failed
  near := by
    rw [← first.buf]
    exact second.near

/-- A byte that is read where nothing is left fails. -/
theorem Sound.stop {cursor after : Cursor} {log : List Access}
    (sound : Sound cursor after log) (ready : Ready cursor) (exhausted : after.Exhausted) :
    Sound cursor after (log ++ [.byte after.pos false]) where
  buf := sound.buf
  walk := sound.walk.append ⟨rfl, rfl⟩
  inside := List.forall_mem_append.mpr ⟨sound.inside, List.forall_mem_singleton.mpr (by
    exact fun failed => by cases failed)⟩
  bounded := by
    have near := sound.near
    have fits := ready.fits
    have bounds : ISIZE_MAX + 65535 ≤ USIZE_MAX := by decide
    refine List.forall_mem_append.mpr ⟨sound.bounded, List.forall_mem_singleton.mpr ?_⟩
    change after.pos ≤ USIZE_MAX
    omega
  final := by
    refine List.pairwise_append.mpr ⟨sound.final, List.pairwise_singleton _ _, ?_⟩
    intro earlier _ later member _
    cases List.mem_singleton.mp member
    rfl
  within := by
    intro all
    exact absurd (all (.byte after.pos false) (by simp)) (by simp [Access.ok])
  exhausted := fun _ _ _ => exhausted
  near := sound.near

/-- The accesses of the reader are sound. -/
def Guarded {Value : Type} (read : Traced Value) : Prop :=
  ∀ cursor, Ready cursor → Sound cursor (read cursor).1.2 (read cursor).2

/-- The reader has a value only when all its accesses succeed. -/
def Strict {Value : Type} (read : Traced Value) : Prop :=
  ∀ cursor value after log, Ready cursor → read cursor = ((some value, after), log) →
    ∀ access ∈ log, access.ok = true

/-- Where nothing is left the reader fails with its first byte. -/
def Halts {Value : Type} (read : Traced Value) : Prop :=
  ∀ cursor : Cursor, cursor.Exhausted →
    read cursor = ((none, cursor), [.byte cursor.pos false])

/-- The reader fails only where nothing is left after it. -/
def Drains {Value : Type} (read : Traced Value) : Prop :=
  ∀ cursor after log, read cursor = ((none, after), log) → after.Exhausted

section

variable {Value Result : Type} {read : Traced Value} {next : Value → Traced Result}

theorem Guarded.sound {cursor after : Cursor} {result : Option Value} {log : List Access}
    (guarded : Guarded read) (ready : Ready cursor)
    (ran : read cursor = ((result, after), log)) : Sound cursor after log := by
  have sound := guarded cursor ready
  rwa [ran] at sound

/-- One reader after another that had a value. -/
theorem Guarded.followed {read' : Traced Result} {cursor middle after : Cursor} {value : Value}
    {result : Option Result} {front back : List Access} (guarded : Guarded read)
    (strict : Strict read) (guarded' : Guarded read') (strict' : Strict read')
    (ready : Ready cursor) (ran : read cursor = ((some value, middle), front))
    (ran' : read' middle = ((result, after), back)) :
    Sound cursor after (front ++ back) ∧
      (result.isSome → ∀ access ∈ front ++ back, access.ok = true) := by
  have sound := guarded.sound ready ran
  have all := strict cursor value middle front ready ran
  have ready' := sound.ready ready all
  refine ⟨sound.append (guarded'.sound ready' ran') all, fun found => ?_⟩
  cases result with
  | none => cases found
  | some result =>
      exact List.forall_mem_append.mpr ⟨all, strict' middle result after back ready' ran'⟩

theorem Halts.bind (halts : Halts read) : Halts (read >>= next) :=
  fun cursor exhausted => bind_none (halts cursor exhausted)

theorem Drains.bind (first : Drains read) (second : ∀ value, Drains (next value)) :
    Drains (read >>= next) := by
  intro cursor last log ran
  rcases began : read cursor with ⟨⟨- | value, after⟩, front⟩
  · rw [bind_none began, Prod.mk.injEq] at ran
    rcases ran with ⟨failed, rfl⟩
    cases failed
    exact first cursor _ _ began
  · rw [bind_some began, Prod.mk.injEq] at ran
    exact second value after last _ (Prod.ext ran.1 rfl)

theorem Guarded.bind (first : Guarded read) (strict : Strict read)
    (second : ∀ value, Guarded (next value)) : Guarded (read >>= next) := by
  intro cursor ready
  rcases ran : read cursor with ⟨⟨- | value, after⟩, log⟩
  · rw [bind_none ran]
    exact first.sound ready ran
  · have sound := first.sound ready ran
    have all := strict cursor value after log ready ran
    rw [bind_some ran]
    exact sound.append (second value after (sound.ready ready all)) all

theorem Strict.bind (first : Guarded read) (strict : Strict read)
    (second : ∀ value, Strict (next value)) : Strict (read >>= next) := by
  intro cursor result last log ready ran
  rcases began : read cursor with ⟨⟨- | value, after⟩, front⟩
  · rw [bind_none began] at ran
    cases ran
  · have sound := first.sound ready began
    have all := strict cursor value after front ready began
    rw [bind_some began, Prod.mk.injEq] at ran
    rcases ran with ⟨rest, rfl⟩
    intro access member
    rcases List.mem_append.mp member with early | late
    · exact all access early
    · exact second value after result last _ (sound.ready ready all)
        (Prod.ext rest rfl) access late

/-- The first reader may go on after an access that failed, when the second does not. -/
theorem Guarded.bind_of_halts (first : Guarded read) (halts : ∀ value, Halts (next value))
    (second : ∀ value, Guarded (next value)) : Guarded (read >>= next) := by
  intro cursor ready
  rcases ran : read cursor with ⟨⟨- | value, after⟩, log⟩
  · rw [bind_none ran]
    exact first.sound ready ran
  · have sound := first.sound ready ran
    rw [bind_some ran]
    rcases sound.all_or_exhausted with all | exhausted
    · exact sound.append (second value after (sound.ready ready all)) all
    · rw [halts value after exhausted]
      exact sound.stop ready exhausted

end

/-! ### The basic readers -/

theorem Guarded.pure {Value : Type} (value : Value) : Guarded (pure value) :=
  fun _ ready => .refl ready

theorem Strict.pure {Value : Type} (value : Value) : Strict (pure value) := by
  intro cursor other after log _ ran access member
  cases ran
  cases member

theorem Drains.pure {Value : Type} (value : Value) : Drains (pure value) := by
  intro cursor after log ran
  cases ran

theorem Drains.u8 : Drains Traced.u8 := by
  intro cursor after log ran
  by_cases left : cursor.pos < cursor.buf.length
  · simp [Traced.u8, Read.u8, List.getElem?_eq_getElem left] at ran
  · have exhausted : cursor.Exhausted := Nat.le_of_not_lt left
    rw [Traced.u8, Read.u8_exhausted exhausted] at ran
    cases ran
    exact exhausted

theorem Halts.u8 : Halts Traced.u8 := by
  intro cursor exhausted
  rw [Traced.u8, Read.u8_exhausted exhausted]
  rfl

theorem Guarded.u8 : Guarded Traced.u8 := by
  intro cursor ready
  by_cases left : cursor.pos < cursor.buf.length
  · have read : Read.u8 cursor =
        (some cursor.buf[cursor.pos], { cursor with pos := cursor.pos + 1 }) := by
      rw [Read.u8, List.getElem?_eq_getElem left]
    have fits := ready.fits
    have bounds : ISIZE_MAX + 1 ≤ USIZE_MAX := by decide
    rw [Traced.u8, read]
    refine Sound.one rfl rfl rfl (fun _ => left) ?_ (fun _ => left) (by simp [Access.ok]) ?_
    · change cursor.pos + 1 ≤ USIZE_MAX
      omega
    · change cursor.pos + 1 ≤ cursor.buf.length + 65535
      omega
  · have exhausted : cursor.Exhausted := Nat.le_of_not_lt left
    rw [Halts.u8 cursor exhausted]
    exact (Sound.refl ready).stop ready exhausted

theorem Strict.u8 : Strict Traced.u8 := by
  intro cursor value after log _ ran access member
  simp only [Traced.u8, Prod.mk.injEq] at ran
  rcases ran with ⟨read, rfl⟩
  cases List.mem_singleton.mp member
  rw [read]
  rfl

theorem Guarded.skip {count : Nat} (small : count ≤ 65535) : Guarded (Traced.skip count) := by
  intro cursor ready
  have fits := ready.fits
  have inside := ready.inside
  have bounds : ISIZE_MAX + 65535 ≤ USIZE_MAX := by decide
  have noOverflow : ¬USIZE_MAX < cursor.pos + count := by omega
  have after (ok : Bool) : (Access.skip cursor.pos count ok).after = cursor.pos + count := by
    simp only [Access.after, if_neg noOverflow]
  have bounded : cursor.pos + count ≤ USIZE_MAX := Nat.le_of_not_lt noOverflow
  have near : cursor.pos + count ≤ cursor.buf.length + 65535 := Nat.add_le_add inside small
  by_cases past : cursor.buf.length < cursor.pos + count
  · have read : Read.skip count cursor =
        (none, { cursor with pos := cursor.pos + count }) := by
      simp only [Read.skip, if_neg noOverflow, if_pos past]
    rw [Traced.skip, read]
    exact Sound.one rfl rfl (after false) (by simp [Access.Inside]) bounded (by simp [Access.ok])
      (fun _ => Nat.le_of_lt past) near
  · have left : cursor.pos + count ≤ cursor.buf.length := Nat.le_of_not_lt past
    have read : Read.skip count cursor =
        (some (), { cursor with pos := cursor.pos + count }) := by
      simp only [Read.skip, if_neg noOverflow, if_neg past]
    rw [Traced.skip, read]
    exact Sound.one rfl rfl (after true) (fun _ => left) bounded (fun _ => left)
      (by simp [Access.ok]) near

theorem Strict.skip (count : Nat) : Strict (Traced.skip count) := by
  intro cursor value after log _ ran access member
  simp only [Traced.skip, Prod.mk.injEq] at ran
  rcases ran with ⟨read, rfl⟩
  cases List.mem_singleton.mp member
  rw [read]
  rfl

theorem Guarded.u16 : Guarded Traced.u16 :=
  u8.bind Strict.u8 fun _ => u8.bind Strict.u8 fun _ => pure _

theorem Strict.u16 : Strict Traced.u16 :=
  .bind Guarded.u8 u8 fun _ => .bind Guarded.u8 u8 fun _ => pure _

theorem Halts.u16 : Halts Traced.u16 := u8.bind

theorem Drains.u16 : Drains Traced.u16 := u8.bind fun _ => u8.bind fun _ => pure _

theorem Guarded.u32 : Guarded Traced.u32 :=
  u8.bind Strict.u8 fun _ => u8.bind Strict.u8 fun _ => u8.bind Strict.u8 fun _ =>
    u8.bind Strict.u8 fun _ => pure _

theorem Strict.u32 : Strict Traced.u32 :=
  .bind Guarded.u8 u8 fun _ => .bind Guarded.u8 u8 fun _ => .bind Guarded.u8 u8 fun _ =>
    .bind Guarded.u8 u8 fun _ => pure _

end Traced

end Foundation
