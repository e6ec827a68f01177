import FileConformance.Procedure
import Std.Data.ExtTreeMap

/-!
# Faulty subsystems

A list of rules makes any subsystem misbehave.  Calls are numbered among the
calls of their kind, and the first rule that speaks about a call decides what
happens to it: it fails, it is answered without being made, or it is made with
less data or reported with another result.
-/

namespace FileConformance

/-- A rule about some calls of one kind. -/
structure FaultRule where
  kind : CallKind
  /-- Which call of the kind the rule speaks about; all, if not given. -/
  number : Option Nat := none
  /-- Fail without making the call. -/
  error : Option CallError := none
  /-- Answer this handle without making the call. -/
  handle : Option Handle := none
  /-- Succeed without making the call. -/
  skip : Bool := false
  /-- Read or write at most this many bytes. -/
  limit : Option Nat := none
  /-- Flip bits of a byte that was read. -/
  mask : Option (Nat × UInt8) := none
  /-- Claim to have written this many bytes. -/
  claim : Option Nat := none

/-- A subsystem's state with the calls that were made so far. -/
structure Faulty (State : Type) where
  inner : State
  /-- How many calls of each kind were made. -/
  made : Std.ExtTreeMap CallKind Nat compare := ∅

namespace FaultRule

/-- Whether a rule speaks about a call. -/
def applies (rule : FaultRule) (kind : CallKind) (number : Nat) : Bool :=
  rule.kind == kind && rule.number.all (· == number)

/-- The rule that decides what happens to a call. -/
def deciding (rules : List FaultRule) (kind : CallKind) (number : Nat) :
    Option FaultRule :=
  rules.find? fun rule => rule.applies kind number

variable {State : Type}

/-- A call that opens a file, under a rule. -/
def opening (rule : FaultRule) (state : State)
    (make : Reply State (Except CallError Handle)) :
    Reply State (Except CallError Handle) :=
  match rule.error, rule.handle with
  | some reason, _ => ⟨.error reason, state, []⟩
  | none, some handle => ⟨.ok handle, state, []⟩
  | none, none => make

/-- A call that gives nothing back, under a rule. -/
def settling (rule : FaultRule) (state : State)
    (make : Reply State (Except CallError Unit)) :
    Reply State (Except CallError Unit) :=
  match rule.error with
  | some reason => ⟨.error reason, state, []⟩
  | none => if rule.skip then ⟨.ok (), state, []⟩ else make

/-- Flip bits of a byte, if the byte was read. -/
def spoil (rule : FaultRule) (count : Except CallError Nat)
    (buffer : Bytes) : Bytes :=
  match rule.mask, count with
  | some (offset, mask), .ok read =>
      if offset < read then buffer.flip offset mask else buffer
  | _, _ => buffer

theorem length_spoil (rule : FaultRule) (count : Except CallError Nat)
    (buffer : Bytes) :
    (rule.spoil count buffer).length = buffer.length := by
  unfold spoil
  split
  · split <;> simp
  · rfl

/-- A read under a rule: the subsystem sees the start of the buffer. -/
def reading (rule : FaultRule) (subsystem : Subsystem State)
    (handle : Handle) (buffer : Bytes) (state : State) :
    Reply State (Received buffer.length) :=
  match rule.error with
  | some reason => ⟨.refused reason buffer, state, []⟩
  | none =>
      let seen := buffer.take (rule.limit.getD buffer.length)
      let reply := subsystem.respond (.read handle seen) state
      let count := reply.answer.count
      let whole := buffer.place reply.answer.buffer
      have fits : reply.answer.buffer.length ≤ buffer.length := by
        rw [reply.answer.buffer_length]
        exact List.length_take_le' _ _
      ⟨⟨count, rule.spoil count whole, by
          rw [length_spoil]
          exact Bytes.length_place fits⟩,
        reply.state, reply.events⟩

/-- A write under a rule: the subsystem sees the start of the data. -/
def writing (rule : FaultRule) (subsystem : Subsystem State)
    (handle : Handle) (data : Bytes) (state : State) :
    Reply State (Except CallError Nat) :=
  match rule.error with
  | some reason => ⟨.error reason, state, []⟩
  | none =>
      let seen := data.take (rule.limit.getD data.length)
      let reply := subsystem.respond (.write handle seen) state
      { reply with
        answer := reply.answer.map fun count => rule.claim.getD count }

/-- A call under a rule. -/
def respond (rule : FaultRule) (subsystem : Subsystem State) :
    (request : Call) → State → Reply State request.Answer
  | .create name, state =>
      rule.opening state (subsystem.respond (.create name) state)
  | .openFile name, state =>
      rule.opening state (subsystem.respond (.openFile name) state)
  | .close handle, state =>
      rule.settling state (subsystem.respond (.close handle) state)
  | .read handle buffer, state => rule.reading subsystem handle buffer state
  | .write handle data, state => rule.writing subsystem handle data state
  | .delete name, state =>
      rule.settling state (subsystem.respond (.delete name) state)
  | .exit code, state =>
      if rule.skip then ⟨(), state, []⟩
      else subsystem.respond (.exit code) state

end FaultRule

/-- A subsystem that misbehaves by rules. -/
def Subsystem.withFaults {State : Type} (subsystem : Subsystem State)
    (rules : List FaultRule) : Subsystem (Faulty State) where
  respond request faulty :=
    let number := (faulty.made[request.kind]?).getD 0
    let reply :=
      match FaultRule.deciding rules request.kind number with
      | some rule => rule.respond subsystem request faulty.inner
      | none => subsystem.respond request faulty.inner
    { reply with
      state := ⟨reply.state, faulty.made.insert request.kind (number + 1)⟩ }

end FileConformance
