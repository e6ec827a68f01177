import FileConformance.Proofs.Scenario.Shape

/-!
# When round trips are completed

The numbers that a subsystem answers are its own.  Whatever it claims to have
written is compared with what it was given, and no number does any harm there.
What it claims to have read is used to cut the buffer, and a buffer cannot be
cut behind its end.

So a round trip of all files is completed, with one check for each of them,
exactly if no read claims more bytes than were asked for.  The first that does
ends it at once, and there are no checks at all, not even for the files that
were visited before.
-/

namespace FileConformance

/-- A read into a buffer of some length claims more bytes than that. -/
inductive Exchange.Overclaims (count length : Nat) : Exchange → Prop where
  | read {handle : Handle} {buffer : Bytes}
      {received : Received buffer.length}
      (claimed : received.count = .ok count)
      (room : buffer.length = length) (beyond : length < count) :
      Overclaims count length ⟨.read handle buffer, received⟩

theorem Exchange.Overclaims.not_honest {count length : Nat}
    {exchange : Exchange} (overclaims : exchange.Overclaims count length) :
    ¬exchange.call.Honest exchange.answer := by
  cases overclaims with
  | read claimed room beyond =>
      intro honest
      have fits := honest count claimed
      omega

/-- The last exchange of a run is its only dishonest one, and ends it. -/
def Run.Overran {State Result : Type} (run : Run State Result)
    (length : Nat) : Prop :=
  ∃ before last count, run.exchanges = before ++ [last] ∧
    (∀ exchange ∈ before, exchange.call.Honest exchange.answer) ∧
    last.Overclaims count length ∧
    run.ending = .error (.readOverrun count length)

theorem Run.Overran.exists_dishonest {State Result : Type}
    {run : Run State Result} {length : Nat}
    (overran : run.Overran length) : ∃ exchange ∈ run.exchanges,
      ¬exchange.call.Honest exchange.answer := by
  rcases overran with ⟨before, last, count, made, _, overclaims, _⟩
  refine ⟨last, ?_, overclaims.not_honest⟩
  rw [made]
  exact List.mem_append_right before (List.mem_singleton_self last)

namespace Procedure

/--
A procedure goes on with honest answers to its end.  A read into a buffer of
some length that claims more bytes makes it give up, and says so.
-/
inductive Watchful {Result : Type} (length : Nat) :
    Procedure Result → Prop where
  | done (result : Result) : Watchful length (.done result)
  | emit {events : List Event} {next : Procedure Result}
      (rest : Watchful length next) : Watchful length (.emit events next)
  | call {request : Call} {next : request.Answer → Procedure Result}
      (rest : ∀ answer, request.Honest answer →
        Watchful length (next answer))
      (stops : ∀ answer, ¬request.Honest answer → ∃ count,
        Exchange.Overclaims count length ⟨request, answer⟩ ∧
          next answer = .abort (.readOverrun count length)) :
      Watchful length (.call request next)

variable {Result Next State : Type} {length : Nat}

/-! ## How procedures are built -/

theorem watchful_pure (result : Result) :
    Watchful length (pure result : Procedure Result) :=
  .done result

theorem Watchful.bind {procedure : Procedure Result}
    {continuation : Result → Procedure Next}
    (first : Watchful length procedure)
    (second : ∀ result, Watchful length (continuation result)) :
    Watchful length (procedure >>= continuation) := by
  show Watchful length (procedure.bind continuation)
  induction first with
  | done result => exact second result
  | emit _ ih => exact .emit ih
  | call _ stops ih =>
      refine .call ih fun answer dishonest => ?_
      rcases stops answer dishonest with ⟨count, overclaims, gives⟩
      refine ⟨count, overclaims, ?_⟩
      rw [gives]
      rfl

/-- All answers to other calls than reads are honest. -/
theorem watchful_request_bind {request : Call}
    {continuation : request.Answer → Procedure Next}
    (always : ∀ answer, request.Honest answer)
    (rest : ∀ answer, Watchful length (continuation answer)) :
    Watchful length (Procedure.request request >>= continuation) :=
  .call (fun answer _ => rest answer)
    fun answer dishonest => (dishonest (always answer)).elim

/-- A read that claims more than fits must be noticed at once. -/
theorem watchful_read_bind {handle : Handle} {buffer : Bytes}
    {continuation : Received buffer.length → Procedure Next}
    (room : buffer.length = length)
    (rest : ∀ received, Call.Honest (.read handle buffer) received →
      Watchful length (continuation received))
    (stops : ∀ received count, received.count = .ok count →
      length < count →
        continuation received = .abort (.readOverrun count length)) :
    Watchful length
      (Procedure.request (.read handle buffer) >>= continuation) := by
  refine .call rest fun received dishonest => ?_
  simp only [Call.Honest, not_forall, Nat.not_le, exists_prop]
    at dishonest
  rcases dishonest with ⟨count, claimed, beyond⟩
  rw [room] at beyond
  exact ⟨count, .read claimed room beyond,
    stops received count claimed beyond⟩

/-! ## Following a procedure on a subsystem -/

/-- A run has a result and honest answers only, or it is overrun. -/
theorem Watchful.run_ends {procedure : Procedure Result}
    (watchful : Watchful length procedure) (subsystem : Subsystem State)
    (state : State) :
    let run := procedure.run subsystem state
    ((∃ result, run.ending = .ok result) ∧
      ∀ exchange ∈ run.exchanges,
        exchange.call.Honest exchange.answer) ∨
      run.Overran length := by
  induction watchful generalizing state with
  | done result => exact .inl ⟨⟨result, rfl⟩, nofun⟩
  | emit _ ih =>
      rw [run_emit]
      exact ih state
  | @call request next _ stops ih =>
      rw [run_call]
      let reply := subsystem.respond request state
      let exchange : Exchange := ⟨request, reply.answer⟩
      by_cases honest : exchange.call.Honest exchange.answer
      · rcases ih reply.answer honest reply.state with
          ⟨ended, all⟩ | ⟨before, last, count, made, all, rest⟩
        · exact .inl ⟨ended, List.forall_mem_cons.mpr ⟨honest, all⟩⟩
        · exact .inr ⟨exchange :: before, last, count,
            congrArg (List.cons exchange) made,
            List.forall_mem_cons.mpr ⟨honest, all⟩, rest⟩
      · rcases stops reply.answer honest with ⟨count, overclaims, gives⟩
        refine .inr ⟨[], exchange, count, ?_, nofun, overclaims, ?_⟩
        · show exchange :: ((next reply.answer).run subsystem
            reply.state).exchanges = [exchange]
          rw [gives]
          rfl
        · show ((next reply.answer).run subsystem
            reply.state).ending = _
          rw [gives]
          rfl

end Procedure

/-! ## Round trips -/

namespace RoundTrip

open Procedure

variable {expected : Bytes} {file : TrackedFile} {handle : Handle}

theorem readBack_watchful :
    Watchful expected.length (readBack expected file handle) := by
  have room := Bytes.length_zeros expected.length
  refine watchful_read_bind room ?_ ?_
  · intro received honest
    split
    · exact watchful_pure _
    · rename_i count counted
      have fits := honest count counted
      rw [room] at fits
      rw [if_pos fits]
      exact watchful_pure _
  · intro received count claimed beyond
    simp only [claimed]
    exact if_neg (Nat.not_le_of_lt beyond)

theorem reopen_watchful :
    Watchful expected.length (reopen expected file) := by
  refine watchful_request_bind (fun _ => trivial) fun answer => ?_
  split
  · exact watchful_pure _
  · exact readBack_watchful

theorem closeWritten_watchful :
    Watchful expected.length (closeWritten expected file handle) := by
  refine watchful_request_bind (fun _ => trivial) fun answer => ?_
  split
  · exact watchful_pure _
  · exact reopen_watchful

theorem visit_watchful (expected : Bytes) (file : TrackedFile) :
    Watchful expected.length (visit expected file) := by
  unfold visit
  split
  · exact watchful_pure _
  · refine watchful_request_bind (fun _ => trivial) fun answer => ?_
    split
    · exact watchful_pure _
    · split
      · exact closeWritten_watchful
      · exact watchful_pure _

end RoundTrip

theorem Walk.files_watchful {visit : TrackedFile → Procedure Visit}
    {length : Nat} (watchful : ∀ file, (visit file).Watchful length)
    (tracked : List TrackedFile) : (files visit tracked).Watchful length := by
  induction tracked with
  | nil => exact Procedure.watchful_pure []
  | cons file rest ih =>
      rw [files_cons]
      exact (watchful file).bind fun _ =>
        ih.bind fun _ => Procedure.watchful_pure _

namespace Step

theorem roundTrip_watchful (limit : NameLimit) (table : Table) :
    (roundTrip.perform limit table).Watchful table.bufferLength := by
  have visits : ∀ file : TrackedFile,
      (RoundTrip.visit (table.expected file.index) file).Watchful
        table.bufferLength := by
    intro file
    have length : (table.expected file.index).length =
        table.bufferLength :=
      Pattern.length_fill _ _ _
    rw [← length]
    exact RoundTrip.visit_watchful _ file
  exact (Walk.files_watchful visits table.files).bind fun _ =>
    Procedure.watchful_pure _

/--
On any subsystem, a round trip of all files is completed with one check for each
file, in their order, if and only if no read claims more bytes than were asked
for.  Nothing else that is answered matters.  If some read does, the first to do
so is the last call that is made: the numbers are reported, and there are no
checks.
-/
theorem roundTrip_completed_iff {State : Type} (subsystem : Subsystem State)
    (limit : NameLimit) (table : Table) (state : State) :
    let run := (roundTrip.perform limit table).run subsystem state
    ((∃ checks after, run.ending = .ok (checks, after) ∧
        checks.length = table.files.length ∧
        checks.map Check.target = table.files.map TrackedFile.name) ↔
      ∀ exchange ∈ run.exchanges,
        exchange.call.Honest exchange.answer) ∧
      ((∃ exchange ∈ run.exchanges,
          ¬exchange.call.Honest exchange.answer) ↔
        run.Overran table.bufferLength) := by
  intro run
  have shape : ∀ result, run.ending = .ok result →
      result.1.map Check.target = table.files.map TrackedFile.name := by
    intro result ended
    rcases (roundTrip.perform_shape limit table).of_ended ended with
      ⟨_, ⟨_, about⟩, _⟩
    exact about
  rcases (roundTrip_watchful limit table).run_ends subsystem state with
    ⟨⟨⟨checks, after⟩, ended⟩, honest⟩ | overran
  · have about := shape _ ended
    have length := congrArg List.length about
    rw [List.length_map, List.length_map] at length
    refine ⟨iff_of_true ⟨checks, after, ended, length, about⟩ honest,
      iff_of_false ?_ ?_⟩
    · rintro ⟨exchange, member, dishonest⟩
      exact dishonest (honest exchange member)
    · rintro ⟨_, _, _, _, _, _, gaveUp⟩
      cases ended.symm.trans gaveUp
  · have dishonest := overran.exists_dishonest
    refine ⟨iff_of_false ?_ ?_, iff_of_true dishonest overran⟩
    · rintro ⟨_, _, ended, _⟩
      rcases overran with ⟨_, _, _, _, _, _, gaveUp⟩
      cases ended.symm.trans gaveUp
    · intro honest
      rcases dishonest with ⟨last, member, lies⟩
      exact lies (honest last member)

end Step

/-- A subsystem that keeps nothing and says that all went well. -/
def Subsystem.boastful : Subsystem Unit where
  respond
    | .create _, _ => ⟨.ok ⟨2⟩, (), []⟩
    | .openFile _, _ => ⟨.ok ⟨2⟩, (), []⟩
    | .close _, _ => ⟨.ok (), (), []⟩
    | .read _ buffer, _ =>
        let length := buffer.length
        ⟨⟨.ok (length + 1), .zeros length, Bytes.length_zeros length⟩, (), []⟩
    | .write _ data, _ => ⟨.ok data.length, (), []⟩
    | .delete _, _ => ⟨.ok (), (), []⟩
    | .exit _, _ => ⟨(), (), []⟩

/--
Not every subsystem lets a round trip be completed: it is enough to claim one
byte more than the buffer takes.
-/
theorem Step.roundTrip_overrun :
    ¬∀ (State : Type) (subsystem : Subsystem State) (limit : NameLimit)
        (table : Table) (state : State),
      ∃ checks after,
        ((roundTrip.perform limit table).run subsystem state).ending =
          .ok (checks, after) ∧
        checks.length = table.files.length := by
  intro completed
  let file : TrackedFile := ⟨0, "file0", .bound ⟨2⟩⟩
  let table : Table := ⟨[file], .standard, 16⟩
  rcases completed Unit .boastful .standard table () with
    ⟨checks, after, ended, _⟩
  have gaveUp :
      ((roundTrip.perform .standard table).run .boastful ()).ending =
        .error (.readOverrun 17 16) := by
    decide +kernel
  cases gaveUp.symm.trans ended

end FileConformance
