import FileConformance.SystemError

/-!
# Broken assumptions

A request is abandoned as a whole when a setting is outside its range, when a
subsystem claims to have read more bytes than the buffer can hold, when the
journal cannot be written, or when a piece of memory would be too long.  Each
reason has one wording.
-/

namespace FileConformance

/-- The settings of a simulated store that are probabilities. -/
inductive Chance where
  | sync
  | inputOutputError
  | corruption
deriving DecidableEq

/-- The name under which a probability is set. -/
def Chance.label : Chance → String
  | .sync => "sync_probability"
  | .inputOutputError => "io_error_probability"
  | .corruption => "corruption_probability"

/-- Why a request is abandoned. -/
inductive Abort where
  /-- A pattern without characters. -/
  | patternModulusZero
  /-- A pattern with a character that cannot be printed. -/
  | patternUnprintable
  /-- A limit on names that no name fits. -/
  | nameLimitTooSmall
  /-- A store whose limit on names no name fits. -/
  | storeNameLimitTooSmall
  /-- A probability outside the closed unit interval. -/
  | probabilityOutOfRange (chance : Chance)
  /-- A scenario without files. -/
  | noFiles
  /-- A scenario whose files have no content. -/
  | noContent
  /-- A stem that is no single path component. -/
  | unusableStem
  /-- A read that claims more bytes than the buffer has. -/
  | readOverrun (count length : Nat)
  /-- A journal that does not take its lines. -/
  | unwritableJournal (reason : SystemError)
  /-- A piece of memory that is longer than any can be. -/
  | capacityOverflow
deriving DecidableEq

/-- The wording of each reason. -/
def Abort.message : Abort → String
  | .patternModulusZero => "pattern modulus must be positive"
  | .patternUnprintable => "pattern bytes must be printable ASCII"
  | .nameLimitTooSmall => "name limit must be at least 2"
  | .storeNameLimitTooSmall =>
      "name_limit must leave room for one byte and a terminator"
  | .probabilityOutOfRange chance =>
      chance.label ++ " must be between 0.0 and 1.0"
  | .noFiles => "file count must be positive"
  | .noContent => "buffer length must be positive"
  | .unusableStem =>
      "name prefix must be a non-empty single path component"
  | .readOverrun count length =>
      "range end index " ++ toString count ++
        " out of range for slice of length " ++ toString length
  | .unwritableJournal reason => reason.message
  | .capacityOverflow => "capacity overflow"

end FileConformance
