import FileConformance.Abort
import FileConformance.NameLimit
import FileConformance.Probability

/-!
# Settings of a simulated store

The limits of a store, how it treats a file that is deleted while open, and
how likely its faults are.
-/

namespace FileConformance

/-- What a store does when a file is deleted that has open handles. -/
inductive DeletePolicy where
  /-- The name goes; the handles keep working. -/
  | allow
  /-- The delete is refused. -/
  | reject
deriving DecidableEq

/-- Limits, policy and faults of a store. -/
structure StoreSettings where
  nameLimit : NameLimit := .standard
  /-- How many handles may be open at once. -/
  handleLimit : Option Nat := none
  /-- How many bytes fit. -/
  capacity : Option Nat := none
  /-- How likely a write reaches durable storage at once. -/
  sync : Probability := .never
  /-- How likely a read or write fails. -/
  inputOutputError : Probability := .never
  /-- How likely a read hands back a wrong byte. -/
  corruption : Probability := .never
  deleteOpen : DeletePolicy := .allow
deriving DecidableEq

namespace StoreSettings

/-- No limits but the common one on names, and no faults. -/
def standard : StoreSettings := {}

/-- Accept names up to another length, the terminator included. -/
def withNameLimit (settings : StoreSettings) (bytes : Nat) :
    Except Abort StoreSettings :=
  match NameLimit.ofBytes? bytes with
  | some nameLimit => .ok { settings with nameLimit }
  | none => .error .storeNameLimitTooSmall

/-- Limit how many handles are open at once. -/
def withHandleLimit (settings : StoreSettings) (count : Nat) :
    StoreSettings :=
  { settings with handleLimit := some count }

/-- Limit how many bytes fit. -/
def withCapacity (settings : StoreSettings) (bytes : Nat) : StoreSettings :=
  { settings with capacity := some bytes }

/-- Set how likely something is. -/
def withChance (settings : StoreSettings) (chance : Chance) (value : Float) :
    Except Abort StoreSettings :=
  match Probability.ofFloat? value with
  | none => .error (.probabilityOutOfRange chance)
  | some probability =>
      .ok <| match chance with
        | .sync => { settings with sync := probability }
        | .inputOutputError =>
            { settings with inputOutputError := probability }
        | .corruption => { settings with corruption := probability }

/-- Set what happens to a file that is deleted while open. -/
def withDeletePolicy (settings : StoreSettings) (policy : DeletePolicy) :
    StoreSettings :=
  { settings with deleteOpen := policy }

end StoreSettings

end FileConformance
