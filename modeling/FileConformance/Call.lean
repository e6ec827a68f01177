import FileConformance.CallError
import FileConformance.Bytes

/-!
# Calls

The seven calls of a file subsystem, and for each call the type of what it
answers.  Reading hands the caller's buffer back: a read may change its bytes
and never its length.
-/

namespace FileConformance

/-- The calls, without their arguments. -/
inductive CallKind where
  | create
  | openFile
  | close
  | read
  | write
  | delete
  | exit
deriving DecidableEq

namespace CallKind

/-- Kinds are ordered as they are listed. -/
instance : Ord CallKind where
  compare := compareOn CallKind.ctorIdx

instance : Std.TransOrd CallKind :=
  inferInstanceAs (Std.TransCmp (compareOn CallKind.ctorIdx))

instance : Std.LawfulEqOrd CallKind where
  eq_of_compare {left right} equal := by
    cases left <;> cases right <;> cases equal <;> rfl

end CallKind

/-- A call on a file subsystem. -/
inductive Call where
  /-- Make a file, or empty the one there is, and open it. -/
  | create (name : Bytes)
  /-- Open a file that exists. -/
  | openFile (name : Bytes)
  /-- Give a handle back. -/
  | close (handle : Handle)
  /-- Read at the handle's position into a buffer. -/
  | read (handle : Handle) (buffer : Bytes)
  /-- Write at the handle's position. -/
  | write (handle : Handle) (data : Bytes)
  /-- Remove a name. -/
  | delete (name : Bytes)
  /-- End the calling process. -/
  | exit (code : Int32)
deriving DecidableEq

/-- What reading into a buffer of a given length answers. -/
structure Received (length : Nat) where
  /-- How many bytes were read, or why none were. -/
  count : Except CallError Nat
  /-- The buffer after the call. -/
  buffer : Bytes
  /-- The buffer is as long as it was. -/
  buffer_length : buffer.length = length

/-- A read that failed leaves the buffer as it was. -/
def Received.refused (reason : CallError) (buffer : Bytes) :
    Received buffer.length where
  count := .error reason
  buffer := buffer
  buffer_length := rfl

namespace Call

/-- The kind of a call. -/
def kind : Call → CallKind
  | .create _ => .create
  | .openFile _ => .openFile
  | .close _ => .close
  | .read _ _ => .read
  | .write _ _ => .write
  | .delete _ => .delete
  | .exit _ => .exit

/-- What a call answers. -/
@[reducible]
def Answer : Call → Type
  | .create _ => Except CallError Handle
  | .openFile _ => Except CallError Handle
  | .close _ => Except CallError Unit
  | .read _ buffer => Received buffer.length
  | .write _ _ => Except CallError Nat
  | .delete _ => Except CallError Unit
  | .exit _ => Unit

/-- The name a call is about, if it takes one. -/
def name? : Call → Option Bytes
  | .create name => some name
  | .openFile name => some name
  | .delete name => some name
  | _ => none

end Call

/-- A call together with what was answered. -/
structure Exchange where
  call : Call
  answer : call.Answer

end FileConformance
