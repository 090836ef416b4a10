import AgentPulse.RelayFraming

/-!
# The tunnel between two connections

`pump` moves opaque bytes both ways through two bounded buffers and one scratch
buffer. Its loop is cut here at every read, write and look at the clock. The
streams are parameters: what a read delivers and how much of a write is taken is
theirs. A log of their calls says what was read from a side and written to it.
-/
namespace AgentPulse

def tunnelBufferCapacity : Nat := 64 * 1024

def tunnelChunkBytes : Nat := 8 * 1024

def retryable (error : IoError) : Bool :=
  match error.kind with
  | .wouldBlock | .timedOut | .interrupted => true
  | .writeZero | .unexpectedEof | .other => false

/-- A read into a buffer of `n` bytes; no bytes are the end of the file. -/
inductive ReadOutcome (n : Nat) where
  | ok (bytes : List UInt8) (fits : bytes.length ≤ n)
  | error (error : IoError)

/-- A write of `n` bytes, of which a part may be taken. -/
inductive WriteOutcome (n : Nat) where
  | ok (count : Nat) (fits : count ≤ n)
  | error (error : IoError)

structure Duplex (S : Type) where
  read : S → (n : Nat) → ReadOutcome n × S
  write : S → (bytes : List UInt8) → WriteOutcome bytes.length × S

/-- The left side is the host, the right side the client. -/
inductive TunnelSide where
  | left | right
  deriving DecidableEq, Repr

namespace TunnelSide

def other : TunnelSide → TunnelSide
  | .left => .right
  | .right => .left

end TunnelSide

/-- What a stream did: the bytes of a read, or how many of the offered bytes it took. -/
inductive TunnelCall where
  | read (side : TunnelSide) (bytes : List UInt8)
  | write (side : TunnelSide) (offered : List UInt8) (count : Nat)
  deriving DecidableEq, Repr

namespace TunnelCall

def readFrom (side : TunnelSide) : TunnelCall → List UInt8
  | .read found bytes => if found = side then bytes else []
  | .write .. => []

def writtenTo (side : TunnelSide) : TunnelCall → List UInt8
  | .read .. => []
  | .write found offered count => if found = side then offered.take count else []

/-- What a write to the side was offered and what it took. -/
def offeredTo (side : TunnelSide) : TunnelCall → Option (List UInt8 × Nat)
  | .read .. => none
  | .write found offered count => if found = side then some (offered, count) else none

end TunnelCall

/-- The bytes that have been read from a side. -/
def readFrom (side : TunnelSide) (calls : List TunnelCall) : List UInt8 :=
  calls.flatMap (TunnelCall.readFrom side)

/-- The bytes that have been written to a side. -/
def writtenTo (side : TunnelSide) (calls : List TunnelCall) : List UInt8 :=
  calls.flatMap (TunnelCall.writtenTo side)

/-- The last write to a side, if there was one, took all that it was offered. -/
def TookAll (side : TunnelSide) (calls : List TunnelCall) : Prop :=
  ∀ write ∈ (calls.filterMap (TunnelCall.offeredTo side)).getLast?, write.2 = write.1.length

structure RelayTunnelStats where
  toHostBytes : Nat
  toClientBytes : Nat
  elapsed : Nat
  deriving DecidableEq, Repr

/-- One way through the tunnel: the buffer, how many bytes were read into it, and
since when the other side has not taken any. -/
structure TunnelWay where
  buffer : List UInt8
  count : Nat
  stalledSince : Option Nat
  deriving DecidableEq, Repr

inductive PumpPhase where
  | top | readLeft | readRight | writeRight | writeLeft | settle
  | done (result : Except RelayError RelayTunnelStats)
  deriving DecidableEq

structure Pump (L R : Type) where
  left : L
  right : R
  leftToRight : TunnelWay
  rightToLeft : TunnelWay
  temporary : List UInt8
  started : Nat
  lastActivity : Nat
  progressed : Bool
  phase : PumpPhase
  calls : List TunnelCall

/-- The stop flag and the clock as one step of the loop finds them. -/
structure Moment where
  stop : Bool
  now : Nat
  deriving DecidableEq, Repr

/-- Addition of `u64` that stays at the largest value. -/
def saturatingAdd (a b : Nat) : Nat := min (a + b) (2 ^ 64 - 1)

/-- What a read or a write of one side comes to. -/
inductive TunnelMove where
  | still (way : TunnelWay)
  | moved (way : TunnelWay)
  | closed
  | failed (source : IoError)

/-- The way that a move leaves. -/
def TunnelMove.way (old : TunnelWay) : TunnelMove → TunnelWay
  | .still way => way
  | .moved way => way
  | .closed => old
  | .failed _ => old

namespace TunnelWay

def new : TunnelWay := ⟨[], 0, none⟩

/-- A read into the room that the buffer has left; the bytes come through the
scratch buffer. -/
def read {S : Type} (io : Duplex S) (self : TunnelWay) (side : TunnelSide) (state : S)
    (temporary : List UInt8) : TunnelMove × S × List UInt8 × List TunnelCall :=
  if self.buffer.length < tunnelBufferCapacity then
    let available := min (tunnelBufferCapacity - self.buffer.length) tunnelChunkBytes
    match io.read state available with
    | (.ok bytes _, state) =>
      let temporary := bytes ++ temporary.drop bytes.length
      let calls := [.read side bytes]
      if bytes.length = 0 then (.closed, state, temporary, calls)
      else
        (.moved { self with
            buffer := self.buffer ++ temporary.take bytes.length
            count := saturatingAdd self.count bytes.length }, state, temporary, calls)
    | (.error error, state) =>
      (if retryable error then .still self else .failed error, state, temporary, [])
  else (.still self, state, temporary, [])

/-- A write of what is buffered; what is taken leaves the buffer. -/
def write {S : Type} (io : Duplex S) (self : TunnelWay) (side : TunnelSide) (state : S)
    (now : Nat) : TunnelMove × S × List TunnelCall :=
  if self.buffer.isEmpty then (.still { self with stalledSince := none }, state, [])
  else
    match io.write state self.buffer with
    | (.ok count _, state) =>
      let calls := [.write side self.buffer count]
      if count = 0 then (.failed ⟨.writeZero, "zero-byte tunnel write"⟩, state, calls)
      else
        (.moved { self with buffer := self.buffer.drop count, stalledSince := none }, state, calls)
    | (.error error, state) =>
      let calls := [.write side self.buffer 0]
      if retryable error then
        (.still { self with stalledSince := some (self.stalledSince.getD now) }, state, calls)
      else (.failed error, state, calls)

end TunnelWay

namespace Pump

variable {L R : Type} (ioLeft : Duplex L) (ioRight : Duplex R)

def start (left : L) (right : R) (now : Nat) : Pump L R where
  left := left
  right := right
  leftToRight := .new
  rightToLeft := .new
  temporary := List.replicate tunnelChunkBytes 0
  started := now
  lastActivity := now
  progressed := false
  phase := .top
  calls := []

def stats (self : Pump L R) (now : Nat) : RelayTunnelStats :=
  ⟨self.rightToLeft.count, self.leftToRight.count, now - self.started⟩

/-- Whether a way has been stalled for too long. -/
def stalledFor (stalledTimeout now : Nat) (way : TunnelWay) : Bool :=
  way.stalledSince.any fun since => now - since ≥ stalledTimeout

/-- The end of the loop or of one of its parts. -/
def leave (self : Pump L R) (now : Nat) (next : PumpPhase) (operation : String) :
    TunnelMove → Pump L R
  | .still _ => { self with phase := next }
  | .moved _ => { self with progressed := true, phase := next }
  | .closed => { self with phase := .done (.ok (self.stats now)) }
  | .failed source => { self with phase := .done (.error (.io operation source.text)) }

def readLeft (self : Pump L R) (now : Nat) : Pump L R :=
  match self.leftToRight.read ioLeft .left self.left self.temporary with
  | (move, left, temporary, calls) =>
    leave
      { self with
        left := left
        temporary := temporary
        leftToRight := move.way self.leftToRight
        calls := self.calls ++ calls } now .readRight "read tunnel Host side" move

def readRight (self : Pump L R) (now : Nat) : Pump L R :=
  match self.rightToLeft.read ioRight .right self.right self.temporary with
  | (move, right, temporary, calls) =>
    leave
      { self with
        right := right
        temporary := temporary
        rightToLeft := move.way self.rightToLeft
        calls := self.calls ++ calls } now .writeRight "read tunnel Client side" move

def writeRight (self : Pump L R) (now : Nat) : Pump L R :=
  match self.leftToRight.write ioRight .right self.right now with
  | (move, right, calls) =>
    leave
      { self with
        right := right
        leftToRight := move.way self.leftToRight
        calls := self.calls ++ calls } now .writeLeft "write tunnel Client side" move

def writeLeft (self : Pump L R) (now : Nat) : Pump L R :=
  match self.rightToLeft.write ioLeft .left self.left now with
  | (move, left, calls) =>
    leave
      { self with
        left := left
        rightToLeft := move.way self.rightToLeft
        calls := self.calls ++ calls } now .settle "write tunnel Host side" move

/-- The deadlines at the end of a round. -/
def settle (idleTimeout stalledTimeout : Nat) (self : Pump L R) (now : Nat) : Pump L R :=
  let lastActivity := if self.progressed then now else self.lastActivity
  let phase : PumpPhase :=
    if now - lastActivity ≥ idleTimeout then
      .done (.error (.timeout "waiting for tunneled traffic"))
    else if stalledFor stalledTimeout now self.leftToRight ||
        stalledFor stalledTimeout now self.rightToLeft then
      .done (.error (.timeout "draining a slow tunnel peer"))
    else .top
  { self with lastActivity := lastActivity, phase := phase }

/-- One part of a round of the loop. -/
def step (idleTimeout stalledTimeout : Nat) (self : Pump L R) (moment : Moment) : Pump L R :=
  match self.phase with
  | .top =>
    if moment.stop then { self with phase := .done (.ok (self.stats moment.now)) }
    else { self with progressed := false, phase := .readLeft }
  | .readLeft => self.readLeft ioLeft moment.now
  | .readRight => self.readRight ioRight moment.now
  | .writeRight => self.writeRight ioRight moment.now
  | .writeLeft => self.writeLeft ioLeft moment.now
  | .settle => self.settle idleTimeout stalledTimeout moment.now
  | .done _ => self

def run (idleTimeout stalledTimeout : Nat) (self : Pump L R) (moments : List Moment) : Pump L R :=
  moments.foldl (step ioLeft ioRight idleTimeout stalledTimeout) self

end Pump

@[simp] theorem readFrom_append (side : TunnelSide) (xs ys : List TunnelCall) :
    readFrom side (xs ++ ys) = readFrom side xs ++ readFrom side ys := List.flatMap_append

@[simp] theorem writtenTo_append (side : TunnelSide) (xs ys : List TunnelCall) :
    writtenTo side (xs ++ ys) = writtenTo side xs ++ writtenTo side ys := List.flatMap_append

@[simp] theorem readFrom_nil (side : TunnelSide) : readFrom side [] = [] := rfl

@[simp] theorem writtenTo_nil (side : TunnelSide) : writtenTo side [] = [] := rfl

@[simp] theorem readFrom_read (side found : TunnelSide) (bytes : List UInt8) :
    readFrom side [.read found bytes] = if found = side then bytes else [] := by
  simp [readFrom, TunnelCall.readFrom]

@[simp] theorem readFrom_write (side found : TunnelSide) (offered : List UInt8) (count : Nat) :
    readFrom side [.write found offered count] = [] := rfl

@[simp] theorem writtenTo_read (side found : TunnelSide) (bytes : List UInt8) :
    writtenTo side [.read found bytes] = [] := rfl

@[simp] theorem writtenTo_write (side found : TunnelSide) (offered : List UInt8) (count : Nat) :
    writtenTo side [.write found offered count] =
      if found = side then offered.take count else [] := by
  simp [writtenTo, TunnelCall.writtenTo]

@[simp] theorem other_ne (side : TunnelSide) : side.other ≠ side := by
  cases side <;> decide

@[simp] theorem other_other (side : TunnelSide) : side.other.other = side := by
  cases side <;> rfl

theorem saturatingAdd_min (a b : Nat) :
    saturatingAdd (min a (2 ^ 64 - 1)) b = min (a + b) (2 ^ 64 - 1) := by
  unfold saturatingAdd
  omega

/-- What was read from a side is what was written to the other and what is still
buffered; the buffer is bounded, and the count is that of the bytes read. -/
structure Carries (calls : List TunnelCall) (side : TunnelSide) (way : TunnelWay) : Prop where
  conserved : readFrom side calls = writtenTo side.other calls ++ way.buffer
  bounded : way.buffer.length ≤ tunnelBufferCapacity
  counted : way.count = min (readFrom side calls).length (2 ^ 64 - 1)

namespace Carries

variable {S : Type} {io : Duplex S} {calls : List TunnelCall} {side : TunnelSide}
  {way : TunnelWay}

theorem new (side : TunnelSide) : Carries [] side .new where
  conserved := rfl
  bounded := Nat.zero_le _
  counted := rfl

theorem restart (h : Carries calls side way) (stalledSince : Option Nat) :
    Carries calls side { way with stalledSince := stalledSince } :=
  ⟨h.conserved, h.bounded, h.counted⟩

/-- Calls that are not of this way do not concern it. -/
theorem append (h : Carries calls side way) {more : List TunnelCall}
    (hread : readFrom side more = []) (hwritten : writtenTo side.other more = []) :
    Carries (calls ++ more) side way where
  conserved := by simp [hread, hwritten, h.conserved]
  bounded := h.bounded
  counted := by simp [hread, h.counted]

theorem read (h : Carries calls side way) (state : S) (temporary : List UInt8) :
    Carries (calls ++ (way.read io side state temporary).2.2.2) side
      ((way.read io side state temporary).1.way way) := by
  unfold TunnelWay.read
  split
  · next hroom =>
    dsimp only
    rcases io.read state _ with ⟨outcome, next⟩
    cases outcome with
    | error error =>
      dsimp only
      rw [List.append_nil]
      split <;> exact h
    | ok bytes hfits =>
      dsimp only
      split
      · next hempty =>
        have hnone := List.eq_nil_of_length_eq_zero hempty
        exact h.append (by simp [hnone]) (by simp)
      · have htaken : (bytes ++ temporary.drop bytes.length).take bytes.length = bytes := by
          rw [List.take_left]
        constructor
        · simp [TunnelMove.way, htaken, h.conserved]
        · simp only [TunnelMove.way, htaken, List.length_append]
          omega
        · rw [TunnelMove.way, h.counted, saturatingAdd_min]
          simp
  · rw [List.append_nil]
    exact h

theorem write (h : Carries calls side way) (state : S) (now : Nat) :
    Carries (calls ++ (way.write io side.other state now).2.2) side
      ((way.write io side.other state now).1.way way) := by
  unfold TunnelWay.write
  split
  · rw [List.append_nil]
    exact h.restart none
  · dsimp only
    rcases io.write state way.buffer with ⟨outcome, next⟩
    cases outcome with
    | error error =>
      have hnothing : Carries (calls ++ [.write side.other way.buffer 0]) side way :=
        h.append (by simp) (by simp)
      dsimp only
      split
      · exact hnothing.restart _
      · exact hnothing
    | ok count hfits =>
      dsimp only
      split
      · next hzero => exact h.append (by simp) (by simp [hzero])
      · constructor
        · simp [TunnelMove.way, h.conserved]
        · simp only [TunnelMove.way, List.length_drop]
          have hbounded := h.bounded
          omega
        · simp [TunnelMove.way, h.counted]

end Carries

/-- A read of one side is no call of the other way. -/
theorem read_of_other {S : Type} (io : Duplex S) (side : TunnelSide) (way : TunnelWay) (state : S)
    (temporary : List UInt8) :
    readFrom side.other (way.read io side state temporary).2.2.2 = [] ∧
      ∀ found, writtenTo found (way.read io side state temporary).2.2.2 = [] := by
  unfold TunnelWay.read
  split
  · dsimp only
    rcases io.read state _ with ⟨outcome, next⟩
    cases outcome with
    | error error => exact ⟨rfl, fun _ => rfl⟩
    | ok bytes hfits =>
      dsimp only
      split <;> exact ⟨by simp [(other_ne side).symm], fun _ => rfl⟩
  · exact ⟨rfl, fun _ => rfl⟩

theorem write_of_other {S : Type} (io : Duplex S) (side : TunnelSide) (way : TunnelWay) (state : S)
    (now : Nat) :
    (∀ found, readFrom found (way.write io side state now).2.2 = []) ∧
      writtenTo side.other (way.write io side state now).2.2 = [] := by
  unfold TunnelWay.write
  split
  · exact ⟨fun _ => rfl, rfl⟩
  · dsimp only
    rcases io.write state way.buffer with ⟨outcome, next⟩
    cases outcome with
    | error error =>
      dsimp only
      split <;> exact ⟨fun _ => rfl, by simp [(other_ne side).symm]⟩
    | ok count hfits =>
      dsimp only
      split <;> exact ⟨fun _ => rfl, by simp [(other_ne side).symm]⟩

namespace Pump

variable {L R : Type} {ioLeft : Duplex L} {ioRight : Duplex R} {idle stalled : Nat}
  {s : Pump L R}

/-- Both ways are faithful, and a result reports how many bytes were read. -/
structure Faithful (s : Pump L R) : Prop where
  leftToRight : Carries s.calls .left s.leftToRight
  rightToLeft : Carries s.calls .right s.rightToLeft
  reported : ∀ stats, s.phase = .done (.ok stats) →
    stats.toClientBytes = min (readFrom .left s.calls).length (2 ^ 64 - 1) ∧
    stats.toHostBytes = min (readFrom .right s.calls).length (2 ^ 64 - 1)

section Leave

variable (s : Pump L R) (now : Nat) (next : PumpPhase) (operation : String) (move : TunnelMove)

@[simp] theorem leave_calls : (s.leave now next operation move).calls = s.calls := by
  cases move <;> rfl

@[simp] theorem leave_leftToRight :
    (s.leave now next operation move).leftToRight = s.leftToRight := by
  cases move <;> rfl

@[simp] theorem leave_rightToLeft :
    (s.leave now next operation move).rightToLeft = s.rightToLeft := by
  cases move <;> rfl

/-- The loop goes on, ends at the end of a file, or fails. -/
theorem leave_phase :
    (s.leave now next operation move).phase = next ∨
    (move = .closed ∧ (s.leave now next operation move).phase = .done (.ok (s.stats now))) ∨
    ∃ error, (s.leave now next operation move).phase = .done (.error error) := by
  cases move with
  | still way => exact .inl rfl
  | moved way => exact .inl rfl
  | closed => exact .inr (.inl ⟨rfl, rfl⟩)
  | failed source => exact .inr (.inr ⟨_, rfl⟩)

end Leave

theorem faithful_leave {now : Nat} {next : PumpPhase} {operation : String} {move : TunnelMove}
    (hnext : ∀ result, next ≠ .done result) (hleft : Carries s.calls .left s.leftToRight)
    (hright : Carries s.calls .right s.rightToLeft) :
    (s.leave now next operation move).Faithful where
  leftToRight := by simpa using hleft
  rightToLeft := by simpa using hright
  reported stats hdone := by
    rw [leave_calls]
    rcases leave_phase s now next operation move with hsame | ⟨-, hclosed⟩ | ⟨error, hfailed⟩
    · exact absurd (hsame.symm.trans hdone) (hnext _)
    · cases hclosed.symm.trans hdone
      exact ⟨hleft.counted, hright.counted⟩
    · cases hfailed.symm.trans hdone

theorem settle_phase (s : Pump L R) (now : Nat) :
    (s.settle idle stalled now).phase = .top ∨
      ∃ error, (s.settle idle stalled now).phase = .done (.error error) := by
  unfold Pump.settle
  dsimp only
  generalize (if s.progressed then now else s.lastActivity) = lastActivity
  split
  · exact .inr ⟨_, rfl⟩
  · split
    · exact .inr ⟨_, rfl⟩
    · exact .inl rfl

theorem Faithful.settle (h : s.Faithful) (now : Nat) : (s.settle idle stalled now).Faithful where
  leftToRight := h.leftToRight
  rightToLeft := h.rightToLeft
  reported stats hdone := by
    rcases settle_phase s now with htop | ⟨error, hfailed⟩
    · cases htop.symm.trans hdone
    · cases hfailed.symm.trans hdone

theorem Faithful.step (h : s.Faithful) (moment : Moment) :
    (s.step ioLeft ioRight idle stalled moment).Faithful := by
  unfold Pump.step
  cases s.phase with
  | top =>
    dsimp only
    split
    · refine ⟨h.leftToRight, h.rightToLeft, ?_⟩
      intro stats hdone
      cases hdone
      exact ⟨h.leftToRight.counted, h.rightToLeft.counted⟩
    · exact ⟨h.leftToRight, h.rightToLeft, fun stats hdone => by cases hdone⟩
  | readLeft =>
    obtain ⟨hread, hwritten⟩ := read_of_other ioLeft .left s.leftToRight
      s.left s.temporary
    exact faithful_leave nofun (h.leftToRight.read s.left s.temporary)
      (h.rightToLeft.append hread (hwritten _))
  | readRight =>
    obtain ⟨hread, hwritten⟩ := read_of_other ioRight .right s.rightToLeft
      s.right s.temporary
    exact faithful_leave nofun (h.leftToRight.append hread (hwritten _))
      (h.rightToLeft.read s.right s.temporary)
  | writeRight =>
    obtain ⟨hread, hwritten⟩ := write_of_other ioRight .right s.leftToRight
      s.right moment.now
    exact faithful_leave nofun (h.leftToRight.write s.right moment.now)
      (h.rightToLeft.append (hread _) hwritten)
  | writeLeft =>
    obtain ⟨hread, hwritten⟩ := write_of_other ioLeft .left s.rightToLeft
      s.left moment.now
    exact faithful_leave nofun (h.leftToRight.append (hread _) hwritten)
      (h.rightToLeft.write s.left moment.now)
  | settle => exact h.settle moment.now
  | done result => exact h

theorem faithful_start (left : L) (right : R) (now : Nat) : (start left right now).Faithful where
  leftToRight := Carries.new .left
  rightToLeft := Carries.new .right
  reported stats hdone := by cases hdone

theorem run_snoc (s : Pump L R) (moments : List Moment) (moment : Moment) :
    s.run ioLeft ioRight idle stalled (moments ++ [moment]) =
      (s.run ioLeft ioRight idle stalled moments).step ioLeft ioRight idle stalled moment := by
  unfold run
  rw [List.foldl_append]
  rfl

theorem faithful_run (left : L) (right : R) (now : Nat) (moments : List Moment) :
    ((start left right now).run ioLeft ioRight idle stalled moments).Faithful := by
  induction moments using List.reverseRecOn with
  | nil => exact faithful_start left right now
  | append_singleton moments moment ih =>
    rw [run_snoc]
    exact ih.step moment

/-- At every step of every run the tunnel is a faithful bounded pipe. -/
theorem run_faithful (ioLeft : Duplex L) (ioRight : Duplex R) (idleTimeout stalledTimeout : Nat)
    (left : L) (right : R) (now : Nat) (moments : List Moment) :
    ((start left right now).run ioLeft ioRight idleTimeout stalledTimeout moments).Faithful :=
  faithful_run left right now moments

end Pump

theorem tookAll_of_none {side : TunnelSide} {calls more : List TunnelCall}
    (h : more.filterMap (TunnelCall.offeredTo side) = []) :
    TookAll side (calls ++ more) ↔ TookAll side calls := by
  unfold TookAll
  rw [List.filterMap_append, h, List.append_nil]

theorem tookAll_write (side : TunnelSide) (calls : List TunnelCall) (offered : List UInt8)
    (count : Nat) :
    TookAll side (calls ++ [.write side offered count]) ↔ count = offered.length := by
  unfold TookAll
  simp [TunnelCall.offeredTo]

/-- A read writes to no side. -/
theorem read_offers {S : Type} (io : Duplex S) (side : TunnelSide) (way : TunnelWay) (state : S)
    (temporary : List UInt8) (found : TunnelSide) :
    (way.read io side state temporary).2.2.2.filterMap (TunnelCall.offeredTo found) = [] := by
  unfold TunnelWay.read
  split
  · dsimp only
    rcases io.read state _ with ⟨outcome, next⟩
    cases outcome with
    | error error => rfl
    | ok bytes hfits =>
      dsimp only
      split <;> rfl
  · rfl

theorem write_offers {S : Type} (io : Duplex S) (side : TunnelSide) (way : TunnelWay) (state : S)
    (now : Nat) :
    (way.write io side state now).2.2.filterMap (TunnelCall.offeredTo side.other) = [] := by
  unfold TunnelWay.write
  split
  · rfl
  · dsimp only
    rcases io.write state way.buffer with ⟨outcome, next⟩
    cases outcome with
    | error error =>
      dsimp only
      split <;> simp [TunnelCall.offeredTo, (other_ne side).symm]
    | ok count hfits =>
      dsimp only
      split <;> simp [TunnelCall.offeredTo, (other_ne side).symm]

/-- An empty buffer was emptied by the last write. -/
def Emptied (calls : List TunnelCall) (side : TunnelSide) (way : TunnelWay) : Prop :=
  way.buffer = [] → TookAll side.other calls

/-- The last write emptied the buffer if it took all, and nothing was read since. -/
def Drained (calls : List TunnelCall) (side : TunnelSide) (way : TunnelWay) : Prop :=
  way.buffer = [] ↔ TookAll side.other calls

theorem Emptied.append {calls more : List TunnelCall} {side : TunnelSide} {way : TunnelWay}
    (h : Emptied calls side way) (hmore : more.filterMap (TunnelCall.offeredTo side.other) = []) :
    Emptied (calls ++ more) side way := by
  unfold Emptied
  rw [tookAll_of_none hmore]
  exact h

theorem Drained.append {calls more : List TunnelCall} {side : TunnelSide} {way : TunnelWay}
    (h : Drained calls side way) (hmore : more.filterMap (TunnelCall.offeredTo side.other) = []) :
    Drained (calls ++ more) side way := by
  unfold Drained
  rw [tookAll_of_none hmore]
  exact h

theorem Emptied.read {S : Type} {io : Duplex S} {calls : List TunnelCall} {side : TunnelSide}
    {way : TunnelWay} (h : Emptied calls side way) (state : S) (temporary : List UInt8) :
    Emptied (calls ++ (way.read io side state temporary).2.2.2) side
      ((way.read io side state temporary).1.way way) := by
  intro hempty
  rw [tookAll_of_none (read_offers io side way state temporary _)]
  apply h
  -- a read only adds to the buffer
  unfold TunnelWay.read at hempty
  split at hempty
  · dsimp only at hempty
    rcases hread : io.read state _ with ⟨outcome, next⟩
    rw [hread] at hempty
    cases outcome with
    | error error =>
      dsimp only at hempty
      split at hempty <;> exact hempty
    | ok bytes hfits =>
      dsimp only at hempty
      split at hempty
      · exact hempty
      · exact (List.append_eq_nil_iff.mp hempty).1
  · exact hempty

/-- The end of the file finds the buffer as the last write left it. -/
theorem Drained.closed {S : Type} {io : Duplex S} {calls : List TunnelCall} {side : TunnelSide}
    {way : TunnelWay} (h : Drained calls side way) {state : S} {temporary : List UInt8}
    (hclosed : (way.read io side state temporary).1 = .closed) :
    Drained (calls ++ (way.read io side state temporary).2.2.2) side
        ((way.read io side state temporary).1.way way) ∧
      (way.read io side state temporary).2.2.2 = [.read side []] := by
  have hcalls : (way.read io side state temporary).2.2.2 = [.read side []] := by
    unfold TunnelWay.read at hclosed ⊢
    split at hclosed
    · next hroom =>
      rw [if_pos hroom]
      dsimp only at hclosed ⊢
      rcases hread : io.read state _ with ⟨outcome, next⟩
      rw [hread] at hclosed
      cases outcome with
      | error error =>
        dsimp only at hclosed
        split at hclosed <;> cases hclosed
      | ok bytes hfits =>
        dsimp only at hclosed ⊢
        split at hclosed
        · next hempty =>
          rw [if_pos hempty, List.eq_nil_of_length_eq_zero hempty]
        · cases hclosed
    · cases hclosed
  refine ⟨?_, hcalls⟩
  unfold Drained
  rw [tookAll_of_none (read_offers io side way state temporary _), hclosed]
  exact h

theorem Emptied.drained_write {S : Type} {calls : List TunnelCall} {side : TunnelSide}
    {way : TunnelWay} (h : Emptied calls side way) (io : Duplex S) (state : S) (now : Nat) :
    Drained (calls ++ (way.write io side.other state now).2.2) side
      ((way.write io side.other state now).1.way way) := by
  unfold TunnelWay.write
  split
  · next hempty =>
    have hnil : way.buffer = [] := List.isEmpty_iff.mp hempty
    rw [List.append_nil]
    exact iff_of_true hnil (h hnil)
  · next hbuffered =>
    have hsome : way.buffer ≠ [] := fun hnil => hbuffered (List.isEmpty_iff.mpr hnil)
    have hlength := List.length_pos_of_ne_nil hsome
    dsimp only
    rcases io.write state way.buffer with ⟨outcome, next⟩
    cases outcome with
    | error error =>
      have hnone : Drained (calls ++ [.write side.other way.buffer 0]) side way := by
        unfold Drained
        rw [tookAll_write]
        exact iff_of_false hsome (by omega)
      dsimp only
      split <;> exact hnone
    | ok count hfits =>
      dsimp only
      split
      · next hzero =>
        unfold Drained
        rw [tookAll_write]
        exact iff_of_false hsome (by omega)
      · unfold Drained
        rw [tookAll_write]
        show way.buffer.drop count = [] ↔ _
        rw [List.drop_eq_nil_iff]
        omega

namespace Pump

variable {L R : Type} {ioLeft : Duplex L} {ioRight : Duplex R} {idle stalled : Nat}
  {s : Pump L R}

/-- The parts of the loop between a write to the right and the next read of the left. -/
def AwaitsLeft : PumpPhase → Prop
  | .writeLeft | .settle | .top | .readLeft => True
  | _ => False

/-- The parts of the loop between a write to the left and the next read of the right. -/
def AwaitsRight : PumpPhase → Prop
  | .settle | .top | .readLeft | .readRight => True
  | _ => False

/-- The way that starts at a side. -/
def wayOf (s : Pump L R) : TunnelSide → TunnelWay
  | .left => s.leftToRight
  | .right => s.rightToLeft

structure Flushing (s : Pump L R) : Prop where
  emptiedLeft : Emptied s.calls .left s.leftToRight
  emptiedRight : Emptied s.calls .right s.rightToLeft
  drainedLeft : AwaitsLeft s.phase → Drained s.calls .left s.leftToRight
  drainedRight : AwaitsRight s.phase → Drained s.calls .right s.rightToLeft
  ended : ∀ stats, s.phase = .done (.ok stats) → ∃ side,
    s.calls.getLast? = some (.read side []) ∧ Drained s.calls side (s.wayOf side)

/-- Leaving a part of the loop: the way that the next part awaits is drained. -/
theorem flushing_leave {now : Nat} {next : PumpPhase} {operation : String} {move : TunnelMove}
    (hnext : ∀ result, next ≠ .done result) (hleft : Emptied s.calls .left s.leftToRight)
    (hright : Emptied s.calls .right s.rightToLeft)
    (hdrainedLeft : AwaitsLeft next → Drained s.calls .left s.leftToRight)
    (hdrainedRight : AwaitsRight next → Drained s.calls .right s.rightToLeft)
    (hclosed : move = .closed → ∃ side,
      s.calls.getLast? = some (.read side []) ∧ Drained s.calls side (s.wayOf side)) :
    (s.leave now next operation move).Flushing where
  emptiedLeft := by simpa using hleft
  emptiedRight := by simpa using hright
  drainedLeft := by
    rw [leave_calls, leave_leftToRight]
    rcases leave_phase s now next operation move with hsame | ⟨-, hdone⟩ | ⟨error, hdone⟩
    · rw [hsame]
      exact hdrainedLeft
    · rw [hdone]
      exact False.elim
    · rw [hdone]
      exact False.elim
  drainedRight := by
    rw [leave_calls, leave_rightToLeft]
    rcases leave_phase s now next operation move with hsame | ⟨-, hdone⟩ | ⟨error, hdone⟩
    · rw [hsame]
      exact hdrainedRight
    · rw [hdone]
      exact False.elim
    · rw [hdone]
      exact False.elim
  ended stats hdone := by
    have hway : ∀ side, (s.leave now next operation move).wayOf side = s.wayOf side := by
      intro side
      cases side
      · exact leave_leftToRight s now next operation move
      · exact leave_rightToLeft s now next operation move
    rw [leave_calls]
    rcases leave_phase s now next operation move with hsame | ⟨hmove, -⟩ | ⟨error, hfailed⟩
    · exact absurd (hsame.symm.trans hdone) (hnext _)
    · obtain ⟨side, hlast, hdrained⟩ := hclosed hmove
      exact ⟨side, hlast, by rw [hway]; exact hdrained⟩
    · cases hfailed.symm.trans hdone

/-- A write ends no file. -/
theorem write_not_closed {S : Type} (io : Duplex S) (side : TunnelSide) (way : TunnelWay)
    (state : S) (now : Nat) : (way.write io side state now).1 ≠ .closed := by
  unfold TunnelWay.write
  split
  · nofun
  · dsimp only
    rcases io.write state way.buffer with ⟨outcome, next⟩
    cases outcome with
    | error error =>
      dsimp only
      split <;> nofun
    | ok count hfits =>
      dsimp only
      split <;> nofun

theorem Flushing.settle (h : s.Flushing) (hphase : s.phase = .settle) (now : Nat) :
    (s.settle idle stalled now).Flushing where
  emptiedLeft := h.emptiedLeft
  emptiedRight := h.emptiedRight
  drainedLeft _ := h.drainedLeft (by rw [hphase]; trivial)
  drainedRight _ := h.drainedRight (by rw [hphase]; trivial)
  ended stats hdone := by
    rcases settle_phase s now with htop | ⟨error, hfailed⟩
    · cases htop.symm.trans hdone
    · cases hfailed.symm.trans hdone

theorem Flushing.step (h : s.Flushing) {moment : Moment} (hgoing : moment.stop = false) :
    (s.step ioLeft ioRight idle stalled moment).Flushing := by
  unfold Pump.step
  cases hphase : s.phase with
  | top =>
    have hleft := h.drainedLeft (by rw [hphase]; trivial)
    have hright := h.drainedRight (by rw [hphase]; trivial)
    dsimp only
    rw [if_neg (by simp [hgoing])]
    exact ⟨h.emptiedLeft, h.emptiedRight, fun _ => hleft, fun _ => hright,
      fun stats hdone => by cases hdone⟩
  | readLeft =>
    have hright := h.drainedRight (by rw [hphase]; trivial)
    have hoffers := read_offers ioLeft .left s.leftToRight s.left s.temporary
    refine flushing_leave nofun (h.emptiedLeft.read s.left s.temporary)
      (h.emptiedRight.append (hoffers _)) False.elim (fun _ => hright.append (hoffers _)) ?_
    intro hclosed
    have hleft := h.drainedLeft (by rw [hphase]; trivial)
    obtain ⟨hdrained, hcalls⟩ := hleft.closed hclosed
    have hlast : (s.calls ++ (s.leftToRight.read ioLeft .left s.left s.temporary).2.2.2).getLast? =
        some (.read .left []) := by rw [hcalls, List.getLast?_append]; rfl
    exact ⟨.left, hlast, hdrained⟩
  | readRight =>
    have hoffers := read_offers ioRight .right s.rightToLeft s.right s.temporary
    refine flushing_leave nofun (h.emptiedLeft.append (hoffers _))
      (h.emptiedRight.read s.right s.temporary) False.elim False.elim ?_
    intro hclosed
    have hright := h.drainedRight (by rw [hphase]; trivial)
    obtain ⟨hdrained, hcalls⟩ := hright.closed hclosed
    have hlast : (s.calls ++ (s.rightToLeft.read ioRight .right s.right s.temporary).2.2.2).getLast? =
        some (.read .right []) := by rw [hcalls, List.getLast?_append]; rfl
    exact ⟨.right, hlast, hdrained⟩
  | writeRight =>
    have hoffers := write_offers ioRight .right s.leftToRight s.right moment.now
    have hdrained := h.emptiedLeft.drained_write ioRight s.right moment.now
    have hopen := write_not_closed ioRight .right s.leftToRight s.right moment.now
    exact flushing_leave nofun hdrained.mp (h.emptiedRight.append hoffers) (fun _ => hdrained)
      False.elim fun hclosed => (hopen hclosed).elim
  | writeLeft =>
    have hleft := h.drainedLeft (by rw [hphase]; trivial)
    have hoffers := write_offers ioLeft .left s.rightToLeft s.left moment.now
    have hdrained := h.emptiedRight.drained_write ioLeft s.left moment.now
    have hopen := write_not_closed ioLeft .left s.rightToLeft s.left moment.now
    exact flushing_leave nofun (h.emptiedLeft.append hoffers) hdrained.mp
      (fun _ => hleft.append hoffers) (fun _ => hdrained) fun hclosed => (hopen hclosed).elim
  | settle => exact h.settle hphase moment.now
  | done result => exact h

theorem flushing_start (left : L) (right : R) (now : Nat) : (start left right now).Flushing where
  emptiedLeft _ := nofun
  emptiedRight _ := nofun
  drainedLeft _ := iff_of_true rfl nofun
  drainedRight _ := iff_of_true rfl nofun
  ended stats hdone := by cases hdone

theorem run_flushing (left : L) (right : R) (now : Nat) {moments : List Moment}
    (hgoing : ∀ moment ∈ moments, moment.stop = false) :
    ((start left right now).run ioLeft ioRight idle stalled moments).Flushing := by
  induction moments using List.reverseRecOn with
  | nil => exact flushing_start left right now
  | append_singleton moments moment ih =>
    rw [run_snoc]
    exact (ih fun found hfound => hgoing found (by simp [hfound])).step (hgoing moment (by simp))

/-- A run that is not stopped returns at the end of a file of one side. All that was
read from this side has been written exactly if the last write took all it was offered. -/
theorem closed_loses_nothing_iff (ioLeft : Duplex L) (ioRight : Duplex R)
    (idleTimeout stalledTimeout : Nat) (left : L) (right : R) (now : Nat) (moments : List Moment)
    (stats : RelayTunnelStats) (hgoing : ∀ moment ∈ moments, moment.stop = false)
    (hdone : ((start left right now).run ioLeft ioRight idleTimeout stalledTimeout moments).phase =
      .done (.ok stats)) :
    let calls := ((start left right now).run ioLeft ioRight idleTimeout stalledTimeout moments).calls
    ∃ side, calls.getLast? = some (.read side []) ∧
      (readFrom side calls = writtenTo side.other calls ↔ TookAll side.other calls) := by
  have hfaithful :
      ((start left right now).run ioLeft ioRight idleTimeout stalledTimeout moments).Faithful :=
    faithful_run left right now moments
  obtain ⟨side, hlast, hdrained⟩ := (run_flushing left right now hgoing).ended stats hdone
  have hcarries : Carries
      ((start left right now).run ioLeft ioRight idleTimeout stalledTimeout moments).calls side
      (wayOf ((start left right now).run ioLeft ioRight idleTimeout stalledTimeout moments) side) := by
    cases side
    · exact hfaithful.leftToRight
    · exact hfaithful.rightToLeft
  refine ⟨side, hlast, ?_⟩
  refine Iff.trans ?_ hdrained
  rw [hcarries.conserved]
  exact List.append_right_eq_self

namespace Sample

/-- A stream that follows a script: reads, where no entry would block, and how much
of each write is taken. -/
structure Script where
  reads : List (List UInt8)
  writes : List Nat

def scripted : Duplex Script where
  read s n :=
    match s.reads with
    | [] => (.error ⟨.wouldBlock, "would block"⟩, s)
    | bytes :: rest => (.ok (bytes.take n) (List.length_take_le n bytes), { s with reads := rest })
  write s bytes :=
    match s.writes with
    | [] => (.error ⟨.wouldBlock, "would block"⟩, s)
    | count :: rest =>
      (.ok (min count bytes.length) (Nat.min_le_right ..), { s with writes := rest })

/-- The host sends two bytes and closes; the client takes as many as given. -/
def closing (taken : Nat) : Pump Script Script :=
  (start ⟨[[1, 2], []], []⟩ ⟨[], [taken]⟩ 0).run scripted scripted 10 10
    (List.replicate 8 ⟨false, 0⟩)

end Sample

theorem closed_loses_nothing_sent :
    ∃ side, (Sample.closing 2).calls.getLast? = some (.read side []) ∧
      (readFrom side (Sample.closing 2).calls = writtenTo side.other (Sample.closing 2).calls ↔
        TookAll side.other (Sample.closing 2).calls) :=
  closed_loses_nothing_iff Sample.scripted Sample.scripted 10 10 ⟨[[1, 2], []], []⟩ ⟨[], [2]⟩ 0
    (List.replicate 8 ⟨false, 0⟩) ⟨0, 2, 0⟩ (by decide) (by decide +kernel)

/-- The client takes one byte of two; then the host closes, and the other byte is lost. -/
theorem closed_loses_byte :
    (Sample.closing 1).phase = .done (.ok ⟨0, 2, 0⟩) ∧
      (Sample.closing 1).calls.getLast? = some (.read .left []) ∧
      readFrom .left (Sample.closing 1).calls = [1, 2] ∧
      writtenTo .right (Sample.closing 1).calls = [1] := by
  decide +kernel

end Pump

end AgentPulse
