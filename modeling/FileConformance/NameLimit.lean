import FileConformance.Name

/-!
# Limits on names

A limit counts the terminator, so the smallest useful limit is two bytes.  The
two names on either side of a limit are cut from one endless word over the
letters and digits: the longer has as many bytes as the limit counts, and the
shorter is one byte shorter.
-/

namespace FileConformance

/-- How long a name may be, its terminator included. -/
structure NameLimit where
  bytes : Nat
  /-- Some name fits. -/
  two_le : 2 ≤ bytes := by decide
deriving DecidableEq

namespace NameLimit

/-- The limit of common systems. -/
def standard : NameLimit where
  bytes := 256

/-- A limit of that many bytes, if some name fits it. -/
def ofBytes? (bytes : Nat) : Option NameLimit :=
  if two_le : 2 ≤ bytes then some { bytes, two_le } else none

/-- The letters and digits, in the order in which names use them. -/
def alphabet : Bytes :=
  Bytes.ofString
    "abcdefghijklmnopqrstuvwxyzABCDEFGHIJKLMNOPQRSTUVWXYZ0123456789"

/-- The first `length` bytes of the alphabet repeated without end. -/
def cycle (length : Nat) : Bytes :=
  (List.range length).map fun position =>
    alphabet.getD (position % alphabet.length) 0

/-- The longest name a limit accepts. -/
def longestAccepted (limit : NameLimit) : Bytes :=
  cycle (limit.bytes - 1)

/-- The name that is one byte longer than a limit accepts. -/
def shortestRejected (limit : NameLimit) : Bytes :=
  cycle limit.bytes

end NameLimit

end FileConformance
