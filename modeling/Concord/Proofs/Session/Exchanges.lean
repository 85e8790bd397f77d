import Concord.Proofs.Session.Turns

/-!
# Exchanges

A conversation laid out in one list: for each reading the request for a line, and then what is done
in answer.  When the output takes everything, a conversation is the exchanges of the readings that
the session hears, up to the first that ends it.
-/

namespace Concord

namespace Reading

/--
The readings that a session hears: up to the first that ends it, and without one all of them and
then the end of the input.
-/
def heard : List Reading → List Reading
  | [] => [endOfInput]
  | reading :: others => if reading.ending?.isSome then [reading] else reading :: heard others

variable {reading : Reading} {others : List Reading}

theorem heard_of_ending {result : Except Error Unit} (ends : reading.ending? = some result) :
    heard (reading :: others) = [reading] := by
  simp [heard, ends]

theorem heard_of_going_on (going : reading.ending? = none) :
    heard (reading :: others) = reading :: heard others := by
  simp [heard, going]

/-- Every line that is answered has been heard, and no other line that asks for an answer has. -/
theorem filterMap_heard (readings : List Reading) :
    (heard readings).filterMap question? = questions readings := by
  induction readings with
  | nil => rfl
  | cons reading others inductionHypothesis =>
    cases ends : reading.ending? with
    | some result =>
      simp [heard_of_ending ends, questions_cons_of_ending ends, question?_of_ending ends]
    | none =>
      rw [heard_of_going_on ends, questions_cons_of_going_on ends, ← inductionHypothesis]
      cases question : reading.question? <;> simp [question]

/-- The readings that are heard are all those up to the first that ends the session. -/
theorem exists_heard (readings : List Reading) :
    ∃ before stop behind, readings ++ [.endOfInput] = before ++ stop :: behind ∧
      (∀ reading ∈ before, reading.ending? = none) ∧
      stop.ending? = some (ending readings) ∧ heard readings = before ++ [stop] := by
  induction readings with
  | nil => exact ⟨[], .endOfInput, [], rfl, by simp, rfl, rfl⟩
  | cons reading others inductionHypothesis =>
    cases ends : reading.ending? with
    | some result =>
      refine ⟨[], reading, others ++ [.endOfInput], rfl, by simp, ?_, ?_⟩
      · rw [ends, ending_cons_of_ending ends]
      · exact heard_of_ending ends
    | none =>
      rcases inductionHypothesis with ⟨before, stop, behind, whole, going, stops, hears⟩
      refine ⟨reading :: before, stop, behind, by rw [List.cons_append, whole]; rfl, ?_, ?_, ?_⟩
      · exact List.forall_mem_cons.mpr ⟨ends, going⟩
      · rw [stops, ending_cons_of_going_on ends]
      · rw [heard_of_going_on ends, hears]
        rfl

theorem heard_append_of_going_on {before : List Reading}
    (going : ∀ reading ∈ before, reading.ending? = none) (behind : List Reading) :
    heard (before ++ behind) = before ++ heard behind := by
  induction before with
  | nil => rfl
  | cons reading others inductionHypothesis =>
    rcases List.forall_mem_cons.mp going with ⟨first, rest⟩
    rw [List.cons_append, heard_of_going_on first, inductionHypothesis rest, List.cons_append]

end Reading

namespace Session

/-- The session after it has heard these readings. -/
def after (session : Session) (readings : List Reading) : Session :=
  readings.foldl (fun session reading => (session.turn reading).session) session

/-- What is done about these readings, the requests for them included. -/
def exchanges : Session → List Reading → List Action
  | _, [] => []
  | session, reading :: others =>
    .read session.prompt :: (session.turn reading).actions ++
      (session.turn reading).session.exchanges others

variable {session : Session} {reading : Reading} {others before behind : List Reading}

@[simp]
theorem after_nil : session.after [] = session := rfl

@[simp]
theorem after_cons :
    session.after (reading :: others) = (session.turn reading).session.after others := rfl

@[simp]
theorem exchanges_nil : session.exchanges [] = [] := rfl

@[simp]
theorem exchanges_cons :
    session.exchanges (reading :: others) =
      .read session.prompt :: (session.turn reading).actions ++
        (session.turn reading).session.exchanges others := rfl

@[simp]
theorem after_append :
    session.after (before ++ behind) = (session.after before).after behind :=
  List.foldl_append

@[simp]
theorem exchanges_append :
    session.exchanges (before ++ behind) =
      session.exchanges before ++ (session.after before).exchanges behind := by
  induction before generalizing session with
  | nil => rfl
  | cons reading others inductionHypothesis => simp [inductionHypothesis]

theorem written_exchanges_cons :
    (session.exchanges (reading :: behind)).flatMap Action.written =
      (session.turn reading).actions.flatMap Action.written ++
        ((session.turn reading).session.exchanges behind).flatMap Action.written := by
  simp [Action.written]

/-- When the output takes everything, all exchanges of the readings heard take place. -/
theorem converse_unlimited (session : Session) (readings : List Reading) :
    session.converse .unlimited readings =
      ⟨session.exchanges (Reading.heard readings), Reading.ending readings,
        session.after (Reading.heard readings)⟩ := by
  have performed := Sink.performAll_unlimited
  induction readings generalizing session with
  | nil =>
    have ends : Reading.endOfInput.ending? = some (.ok ()) := rfl
    simp [converse, respond_of_ending (performed _) ends, Reading.heard, Reading.ending]
  | cons reading others inductionHypothesis =>
    cases ends : reading.ending? with
    | some result =>
      simp [converse, respond_of_ending (performed _) ends, Reading.heard_of_ending ends,
        Reading.ending_cons_of_ending ends]
    | none =>
      simp [converse, respond_of_going_on (performed _) ends, Reading.heard_of_going_on ends,
        Reading.ending_cons_of_going_on ends, inductionHypothesis]

/-- When the output takes everything, a session is its opening and then these exchanges. -/
theorem run_unlimited (session : Session) (readings : List Reading) :
    session.run .unlimited readings =
      ⟨session.opening ++ session.exchanges (Reading.heard readings), Reading.ending readings,
        session.after (Reading.heard readings)⟩ := by
  simp [run, converse_unlimited]

theorem output_run_unlimited (session : Session) (readings : List Reading) :
    (session.run .unlimited readings).output =
      session.opening.flatMap Action.written ++
        (session.exchanges (Reading.heard readings)).flatMap Action.written := by
  rw [run_unlimited]
  simp [Transcript.output]

/-- A session that hears these readings to the end asks once more, and then it is over. -/
theorem run_of_going_on {readings : List Reading}
    (going : ∀ reading ∈ readings, reading.ending? = none) :
    session.run .unlimited readings =
      ⟨session.opening ++ session.exchanges readings ++
          [.read (session.after readings).prompt, .log .sessionEnded],
        Reading.ending readings, session.after readings⟩ := by
  have heard := Reading.heard_append_of_going_on going []
  rw [List.append_nil, Reading.heard] at heard
  rw [run_unlimited, heard]
  simp [turn]

theorem output_run_of_going_on {readings : List Reading}
    (going : ∀ reading ∈ readings, reading.ending? = none) :
    (session.run .unlimited readings).output =
      session.opening.flatMap Action.written ++
        (session.exchanges readings).flatMap Action.written := by
  rw [run_of_going_on going]
  simp [Transcript.output, Action.written]

/-- What is written about readings behind others comes behind what is written about those. -/
theorem output_run_append (going : ∀ reading ∈ before, reading.ending? = none)
    (behind : List Reading) :
    (session.run .unlimited (before ++ behind)).output =
      (session.run .unlimited before).output ++
        ((session.after before).exchanges (Reading.heard behind)).flatMap Action.written := by
  rw [output_run_of_going_on going, run_unlimited, Reading.heard_append_of_going_on going]
  simp [Transcript.output]

end Session

end Concord
