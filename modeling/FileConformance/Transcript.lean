import FileConformance.Call
import Std.Data.ExtTreeSet

/-!
# Transcripts

The exchanges of a run, oldest first, are its transcript.  What a run touched
can be read off the transcript: every name that was passed to a call, whether
or not the call succeeded.
-/

namespace FileConformance

namespace Transcript

/-- The names passed to the calls of a transcript, each once, in order. -/
def names (exchanges : List Exchange) : List Bytes :=
  let passed := exchanges.filterMap fun exchange => exchange.call.name?
  (Std.ExtTreeSet.ofList passed compare).toList

end Transcript

end FileConformance
