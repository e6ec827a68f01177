import FileConformance.SystemError

/-!
# Failed calls

A call on a file subsystem either gives a value or fails for one of these
reasons.  The wording of a reason is what reports show.
-/

namespace FileConformance

/-- A handle on an open file, numbered by the subsystem that issued it. -/
structure Handle where
  number : Nat
deriving DecidableEq

namespace Handle

/-- Handles are ordered by their numbers. -/
instance : Ord Handle where
  compare := compareOn Handle.number

instance : Std.TransOrd Handle :=
  inferInstanceAs (Std.TransCmp (compareOn Handle.number))

instance : Std.LawfulEqOrd Handle where
  eq_of_compare {left right} equal := by
    cases left
    cases right
    exact congrArg Handle.mk (Nat.compare_eq_eq.mp equal)

end Handle

/-- Why a call on a subsystem failed. -/
inductive CallError where
  | notFound
  /-- A name whose length, terminator included, is over the limit. -/
  | nameTooLong (length limit : Nat)
  | invalidName
  | badHandle (handle : Handle)
  | tooManyOpenFiles
  | busy
  | noSpace
  | inputOutput
  | alreadyExists
  | permissionDenied
  | terminated
  /-- Any other failure of the operating system. -/
  | system (code : Option Int32) (message : String)
deriving DecidableEq

namespace CallError

/-- The wording of each reason. -/
def message : CallError → String
  | .notFound => "no such file"
  | .nameTooLong length limit =>
      "file name too long: " ++ toString length ++
        " bytes with terminator, limit " ++ toString limit
  | .invalidName => "invalid file name"
  | .badHandle handle => "bad file descriptor: " ++ toString handle.number
  | .tooManyOpenFiles => "too many open files"
  | .busy => "file is open"
  | .noSpace => "no space left on device"
  | .inputOutput => "I/O error"
  | .alreadyExists => "file exists"
  | .permissionDenied => "permission denied"
  | .terminated => "process has terminated"
  | .system _ message => message

/--
The reason a failure of the operating system gives.  The three kinds that a
subsystem names itself are recognised; the rest keep code and wording.
-/
def ofSystem (error : SystemError) : CallError :=
  match error.kind with
  | .notFound => .notFound
  | .alreadyExists => .alreadyExists
  | .permissionDenied => .permissionDenied
  | _ => .system error.code? error.message

end CallError

end FileConformance
