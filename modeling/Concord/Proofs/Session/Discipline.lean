import Concord.Proofs.Session.Aftermath

/-!
# What a session does, and when

Whoever drives a session through pipes relies on the order of what it does.  Before it asks for a
line, everything that it has written is flushed; it asks for no line behind the one that ends it;
and a line that gets an answer is kept before the answer is written.  If flushing fails, the session
ends there, with its banner or its first answer written and nothing behind it.
-/

namespace Concord

open Text.Utf8 (encode)

namespace Action

/-- Whether the action is more than a note of an event. -/
def isDeed : Action → Bool
  | log _ => false
  | _ => true

/-- Whether everything that has been written is flushed after the action, if it was so before. -/
def leavesFlushed (flushed : Bool) : Action → Bool
  | write _ => false
  | flush => true
  | _ => flushed

/-- Everything that these actions write is flushed. -/
def Flushed (actions : List Action) : Prop :=
  actions.foldl leavesFlushed true = true

variable {first second actions : List Action}

theorem flushed_append (flushed : Flushed first) (others : Flushed second) :
    Flushed (first ++ second) := by
  rw [Flushed, List.foldl_append, (flushed : first.foldl leavesFlushed true = true)]
  exact others

@[simp]
theorem foldl_leavesFlushed_log (flushed : Bool) (events : List LogEvent) :
    (events.map log).foldl leavesFlushed flushed = flushed := by
  induction events with
  | nil => rfl
  | cons event others inductionHypothesis => exact inductionHypothesis

@[simp]
theorem filter_isDeed_log (events : List LogEvent) : (events.map log).filter isDeed = [] := by
  simp [List.filter_eq_nil_iff, isDeed]

/-- Events say nothing of what is asked for, kept or flushed. -/
theorem filterMap_filter_isDeed {part : Action → Option kind}
    (silent : ∀ event, part (.log event) = none) (actions : List Action) :
    (actions.filter isDeed).filterMap part = actions.filterMap part := by
  rw [List.filterMap_filter]
  congr 1
  funext action
  cases action with
  | log event => exact (silent event).symm
  | _ => rfl

theorem count_flush_filter_isDeed (actions : List Action) :
    (actions.filter isDeed).count .flush = actions.count .flush :=
  List.count_filter rfl

/-- Where actions that ask for nothing come first, a request stands behind them. -/
theorem split_at_read {prompt : String} {earlier later : List Action}
    (silent : first.filterMap prompt? = [])
    (whole : first ++ second = earlier ++ .read prompt :: later) :
    ∃ between, earlier = first ++ between ∧ second = between ++ .read prompt :: later := by
  rcases List.append_eq_append_iff.mp whole with ⟨between, rfl, rest⟩ | ⟨between, front, rest⟩
  · exact ⟨between, rfl, rest⟩
  · cases between with
    | nil => exact ⟨[], by simpa using front.symm, by simpa using rest.symm⟩
    | cons action others =>
      obtain ⟨rfl, -⟩ := List.cons.inj rest
      rw [front] at silent
      simp [prompt?] at silent

end Action

namespace Session

variable {session : Session} {reading : Reading} {readings : List Reading}

/-! ## What is done about readings -/

/-- The deeds with which a reading is answered. -/
def replies (session : Session) (reading : Reading) : List Action :=
  match reading.question? with
  | none => []
  | some text => .remember text :: (session.answer text).outcome.report session.styled

/-- The deeds of a conversation over these readings, the requests for them included. -/
def dialogue : Session → List Reading → List Action
  | _, [] => []
  | session, reading :: others =>
    .read session.prompt :: session.replies reading ++
      (session.turn reading).session.dialogue others

theorem replies_of_quiet (quiet : reading.question? = none) : session.replies reading = [] := by
  simp only [replies, quiet]

/-- A line that asks for an answer is kept, and then one block is written and flushed. -/
theorem replies_of_question (session : Session) {text : String}
    (asks : reading.question? = some text) :
    ∃ block, (session.answer text).outcome.block? session.styled = some block ∧
      session.replies reading = [.remember text, .writeText block, .flush] := by
  rcases session.turn_of_question asks with ⟨-, block, found, -⟩
  exact ⟨block, found, by simp only [replies, asks, Outcome.report, found]⟩

theorem deeds_turn (session : Session) (reading : Reading) :
    (session.turn reading).actions.filter Action.isDeed = session.replies reading := by
  cases question : reading.question? with
  | none =>
    rcases (session.turn_of_quiet question).1 with ⟨events, actions⟩
    simp [actions, replies_of_quiet question]
  | some text =>
    rcases session.turn_of_question question with ⟨events, block, found, actions⟩
    simp [actions, replies, question, Outcome.report, found, Action.isDeed, Action.writeText]

theorem deeds_exchanges (session : Session) (readings : List Reading) :
    (session.exchanges readings).filter Action.isDeed = session.dialogue readings := by
  induction readings generalizing session with
  | nil => rfl
  | cons reading others inductionHypothesis =>
    simp [dialogue, deeds_turn, inductionHypothesis, List.filter_cons, Action.isDeed]

theorem deeds_opening (session : Session) :
    session.opening.filter Action.isDeed =
      if session.showsBanner then [.writeText banner, .flush] else [] := by
  cases shown : session.showsBanner <;>
    simp [opening, shown, Action.isDeed, Action.writeText]

/-- The lines kept in a conversation are those that ask for an answer. -/
theorem remembered_dialogue (session : Session) (readings : List Reading) :
    (session.dialogue readings).filterMap Action.remembered? =
      readings.filterMap Reading.question? := by
  induction readings generalizing session with
  | nil => rfl
  | cons reading others inductionHypothesis =>
    cases question : reading.question? with
    | none =>
      simp [dialogue, replies_of_quiet question, question, inductionHypothesis,
        List.filterMap_cons, Action.remembered?]
    | some text =>
      rcases session.replies_of_question question with ⟨block, -, replies⟩
      simp [dialogue, replies, question, inductionHypothesis, List.filterMap_cons,
        Action.remembered?, Action.writeText]

/-- Flushing is done once for each line that asks for an answer. -/
theorem flushes_dialogue (session : Session) (readings : List Reading) :
    (session.dialogue readings).count .flush =
      (readings.filterMap Reading.question?).length := by
  induction readings generalizing session with
  | nil => rfl
  | cons reading others inductionHypothesis =>
    cases question : reading.question? with
    | none => simp [dialogue, replies_of_quiet question, question, inductionHypothesis]
    | some text =>
      rcases session.replies_of_question question with ⟨block, -, replies⟩
      simp [dialogue, replies, question, inductionHypothesis, Action.writeText]

/-! ## What has been flushed -/

theorem flushed_turn (session : Session) (reading : Reading) :
    Action.Flushed (session.turn reading).actions := by
  rcases session.actions_turn reading with
    ⟨events, actions⟩ | ⟨text, repaired, events, block, -, -, actions⟩
  · rw [actions]
    exact Action.foldl_leavesFlushed_log true events
  · rw [actions]
    simp [Action.Flushed, Action.leavesFlushed, Action.writeText]

theorem flushed_opening (session : Session) : Action.Flushed session.opening := by
  cases shown : session.showsBanner <;>
    simp [opening, shown, Action.Flushed, Action.leavesFlushed, Action.writeText]

theorem flushed_exchanges (session : Session) (readings : List Reading) :
    Action.Flushed (session.exchanges readings) := by
  induction readings generalizing session with
  | nil => rfl
  | cons reading others inductionHypothesis =>
    have asked : Action.Flushed [.read session.prompt] := rfl
    have answered := Action.flushed_append asked (session.flushed_turn reading)
    exact Action.flushed_append answered (inductionHypothesis _)

/-- A request in a conversation stands behind whole exchanges. -/
theorem earlier_of_read {prompt : String} {earlier later : List Action}
    (whole : session.exchanges readings = earlier ++ .read prompt :: later) :
    ∃ before behind, readings = before ++ behind ∧ earlier = session.exchanges before := by
  induction readings generalizing session earlier with
  | nil => simp at whole
  | cons reading others inductionHypothesis =>
    cases earlier with
    | nil => exact ⟨[], _, rfl, rfl⟩
    | cons action between =>
      rw [exchanges_cons, List.cons_append, List.cons_append, List.cons.injEq] at whole
      rcases whole with ⟨rfl, whole⟩
      rcases Action.split_at_read (session.prompts_turn reading) whole with ⟨rest, rfl, inner⟩
      rcases inductionHypothesis inner with ⟨before, behind, rfl, rfl⟩
      exact ⟨reading :: before, behind, rfl, by simp⟩

/-! ## Sessions that write freely -/

/--
What is done in a session that hears these readings and is then ended by one more: what it asks for,
when it flushes, and what it keeps.
-/
structure Disciplined (session : Session) (before : List Reading) (transcript : Transcript) :
    Prop where
  /-- Nothing is asked for behind the reading that ends the session. -/
  prompts : transcript.prompts = List.replicate (before.length + 1) session.prompt
  flushed : ∀ earlier prompt later, transcript.actions = earlier ++ .read prompt :: later →
    Action.Flushed earlier
  /-- Only the banner and the answers are flushed, each of them once. -/
  flushes : transcript.flushes =
    (if session.showsBanner then 1 else 0) + (before.filterMap Reading.question?).length
  history : transcript.history = before.filterMap Reading.question?
  /-- Everything that is done, in order, but for the events noted. -/
  deeds : transcript.actions.filter Action.isDeed =
    (if session.showsBanner then [.writeText banner, .flush] else []) ++
      session.dialogue before ++ [.read session.prompt]

theorem flushed_of_read {prompt : String} {earlier later : List Action}
    (whole : (session.run .unlimited readings).actions = earlier ++ .read prompt :: later) :
    Action.Flushed earlier := by
  rw [run_unlimited] at whole
  rcases Action.split_at_read session.prompts_opening whole with ⟨between, rfl, inner⟩
  rcases earlier_of_read inner with ⟨before, -, -, rfl⟩
  exact Action.flushed_append session.flushed_opening (session.flushed_exchanges before)

/-- A session ends at the first reading that ends it, and is disciplined until then. -/
theorem disciplined_run (session : Session) {before : List Reading} {stop : Reading}
    {result : Except Error Unit} (stops : stop.ending? = some result)
    (heard : Reading.heard readings = before ++ [stop]) :
    session.Disciplined before (session.run .unlimited readings) := by
  have quiet := Reading.question?_of_ending stops
  have deeds : (session.run .unlimited readings).actions.filter Action.isDeed =
      (if session.showsBanner then [.writeText banner, .flush] else []) ++
        session.dialogue before ++ [.read session.prompt] := by
    rw [run_unlimited, heard, List.filter_append, deeds_opening, exchanges_append,
      List.filter_append, deeds_exchanges, deeds_exchanges, ← List.append_assoc]
    simp [dialogue, replies_of_quiet quiet]
  refine ⟨?_, fun _ _ _ whole => flushed_of_read whole, ?_, ?_, deeds⟩
  · rw [Transcript.prompts, run_unlimited, heard]
    simp [prompts_exchanges, Action.prompt?, List.replicate_succ']
  · rw [Transcript.flushes, ← Action.count_flush_filter_isDeed, deeds]
    cases shown : session.showsBanner <;> simp [flushes_dialogue, Action.writeText]
    omega
  · rw [Transcript.history, ← Action.filterMap_filter_isDeed (fun _ => rfl), deeds]
    cases shown : session.showsBanner <;>
      simp [remembered_dialogue, List.filterMap_cons, Action.remembered?, Action.writeText]

end Session

/-! ## Sinks that refuse to be flushed -/

namespace Sink

/-- A sink that takes everything and refuses to be flushed. -/
def refusing : Sink :=
  ⟨none, true⟩

/-- The error of flushing a sink that refuses it. -/
def flushRefusal : Error :=
  .ofKind (.io "flush refused")

variable {first : List Action}

theorem perform_refusing {action : Action} (other : action ≠ .flush) :
    refusing.perform action = ⟨[action], .ok refusing⟩ := by
  cases action with
  | flush => exact absurd rfl other
  | _ => rfl

/-- What comes in front of the first flushing is performed. -/
theorem performAll_refusing_append (free : .flush ∉ first) (second : List Action) :
    refusing.performAll (first ++ second) =
      ⟨first ++ (refusing.performAll second).actions, (refusing.performAll second).result⟩ := by
  induction first with
  | nil => rfl
  | cons action others inductionHypothesis =>
    rw [List.mem_cons, not_or] at free
    simp [performAll, perform_refusing (Ne.symm free.1), inductionHypothesis free.2]

theorem performAll_refusing_of_not_mem (free : .flush ∉ first) :
    refusing.performAll first = ⟨first, .ok refusing⟩ := by
  simpa [performAll] using performAll_refusing_append free []

/-- The first flushing is the last action. -/
theorem performAll_refusing_flush (free : .flush ∉ first) (second : List Action) :
    refusing.performAll (first ++ .flush :: second) =
      ⟨first ++ [.flush], .error flushRefusal⟩ := by
  rw [performAll_refusing_append free]
  rfl

end Sink

namespace Session

variable {session : Session} {reading : Reading} {readings : List Reading} {text : String}
  {others : List String}

/-- A reading that asks for no answer is dealt with, and the session goes on as it was. -/
theorem performAll_refusing_turn (quiet : reading.question? = none) :
    Sink.refusing.performAll (.read session.prompt :: (session.turn reading).actions) =
      ⟨.read session.prompt :: (session.turn reading).actions, .ok .refusing⟩ := by
  rcases (session.turn_of_quiet quiet).1 with ⟨events, actions⟩
  apply Sink.performAll_refusing_of_not_mem
  simp [actions]

/-- A conversation ends with the first answer. -/
theorem respond_refusing_of_question (session : Session) (next : Session → Sink → Transcript)
    (asks : reading.question? = some text) :
    ∃ events : List LogEvent, ∃ block,
      (session.answer text).outcome.block? session.styled = some block ∧
        session.respond .refusing reading next =
          ⟨.read session.prompt :: events.map Action.log ++
              [.remember text, .writeText block, .flush],
            .error Sink.flushRefusal, (session.turn reading).session⟩ := by
  rcases session.turn_of_question asks with ⟨events, block, found, actions⟩
  let front : List Action :=
    .read session.prompt :: events.map Action.log ++ [.remember text, .writeText block]
  have free : .flush ∉ front := by
    simp [front, Action.writeText]
  have split : .read session.prompt :: (session.turn reading).actions = front ++ .flush :: [] := by
    simp [front, actions]
  have performed := Sink.performAll_refusing_flush free []
  rw [← split] at performed
  refine ⟨events, block, found, ?_⟩
  simpa [respond, performed] using actions

/-- The first answer is written behind so many requests, and then the session is over. -/
structure EndsInAnswer (session : Session) (requests : Nat) (text block : String)
    (transcript : Transcript) : Prop where
  result : transcript.result = .error Sink.flushRefusal
  output : transcript.output = encode block
  deeds : transcript.actions.filter Action.isDeed =
    List.replicate requests (.read session.prompt) ++ [.remember text, .writeText block, .flush]

/-- Behind readings that ask for no answer, a conversation ends with the first that does. -/
theorem converse_refusing (session : Session)
    (asked : Reading.questions readings = text :: others) :
    ∃ quiet repaired behind block, readings = quiet ++ .line text repaired :: behind ∧
      (∀ reading ∈ quiet, reading.ending? = none ∧ reading.question? = none) ∧
      (session.answer text).outcome.block? session.styled = some block ∧
      session.EndsInAnswer (quiet.length + 1) text block
        (session.converse .refusing readings) := by
  induction readings with
  | nil => cases asked
  | cons reading behind inductionHypothesis =>
    cases ends : reading.ending? with
    | some result => simp [Reading.questions_cons_of_ending ends] at asked
    | none =>
      rw [Reading.questions_cons_of_going_on ends] at asked
      cases question : reading.question? with
      | some line =>
        rw [question] at asked
        obtain ⟨rfl, -⟩ := List.cons.inj asked
        rcases (Reading.eq_line_of_question question).1 with ⟨repaired, rfl⟩
        let next : Session → Sink → Transcript :=
          fun session sink => session.converse sink behind
        rcases session.respond_refusing_of_question next question with
          ⟨events, block, found, responded⟩
        refine ⟨[], repaired, behind, block, rfl, by simp, found, ?_⟩
        rw [converse, responded]
        constructor
        case result => rfl
        case output => simp [Transcript.output, Action.written, Action.writeText]
        case deeds => simp [List.filter_cons, Action.isDeed, Action.writeText]
      | none =>
        rw [question] at asked
        rcases inductionHypothesis asked with
          ⟨quiet, repaired, rest, block, rfl, silent, found, ended⟩
        refine ⟨reading :: quiet, repaired, rest, block, rfl, ?_, found, ?_⟩
        · exact List.forall_mem_cons.mpr ⟨⟨ends, question⟩, silent⟩
        · rcases session.turn_of_quiet question with ⟨⟨events, actions⟩, same⟩
          rw [converse, respond_of_going_on (performAll_refusing_turn question) ends, same, actions]
          constructor
          case result => exact ended.result
          case output => simpa [Transcript.output, Action.written] using ended.output
          case deeds =>
            simp [List.filter_cons, Action.isDeed, ended.deeds, List.replicate_succ]

/-- A banner that cannot be flushed is all that is written. -/
theorem run_refusing_of_banner (shown : session.showsBanner = true) (readings : List Reading) :
    session.run .refusing readings =
      ⟨[.log (.sessionStarted session.scope session.policy), .writeText banner, .flush],
        .error Sink.flushRefusal, session⟩ := by
  simp only [run, opening, shown, if_true]
  rfl

/-- Without a banner, a session opens in silence. -/
theorem run_refusing_of_silence (silent : session.showsBanner = false) (readings : List Reading) :
    session.run .refusing readings =
      let others := session.converse .refusing readings
      ⟨.log (.sessionStarted session.scope session.policy) :: others.actions, others.result,
        others.session⟩ := by
  simp only [run, opening, silent, Bool.false_eq_true, if_false]
  rfl

/--
A session whose output takes everything asks for lines up to the first reading that ends it, with
one prompt; when it asks, everything it has written is flushed; it flushes its banner and every
answer once; and it keeps every line that it answers, as it was read, before it writes the answer.
A session whose output cannot be flushed ends with its banner, or without one with its first answer.
-/
theorem run_is_disciplined (session : Session) (readings : List Reading) :
    let free := session.run .unlimited readings
    let refused := session.run .refusing readings
    (∃ before stop behind, readings ++ [.endOfInput] = before ++ stop :: behind ∧
      (∀ reading ∈ before, reading.ending? = none) ∧ stop.ending? = some free.result ∧
      session.Disciplined before free) ∧
    (session.showsBanner = true →
      refused.result = .error (.ofKind (.io "flush refused")) ∧ refused.output = encode banner ∧
        refused.actions.filter Action.isDeed = [.writeText banner, .flush]) ∧
    (session.showsBanner = false → ∀ text others, Reading.questions readings = text :: others →
      ∃ quiet repaired behind block, readings = quiet ++ .line text repaired :: behind ∧
        (∀ reading ∈ quiet, reading.ending? = none ∧ reading.question? = none) ∧
        (session.answer text).outcome.block? session.styled = some block ∧
        session.EndsInAnswer (quiet.length + 1) text block refused) := by
  intro free refused
  refine ⟨?_, fun shown => ?_, fun silent text others asked => ?_⟩
  · rcases Reading.exists_heard readings with ⟨before, stop, behind, whole, going, stops, heard⟩
    have result : free.result = Reading.ending readings := by
      simp only [free, run_unlimited]
    exact ⟨before, stop, behind, whole, going, result ▸ stops,
      session.disciplined_run stops heard⟩
  · simp only [refused, run_refusing_of_banner shown]
    refine ⟨rfl, ?_, rfl⟩
    simp [Transcript.output, Action.written, Action.writeText]
  · rcases session.converse_refusing asked with
      ⟨quiet, repaired, behind, block, whole, silence, found, ended⟩
    refine ⟨quiet, repaired, behind, block, whole, silence, found, ?_⟩
    simp only [refused, run_refusing_of_silence silent]
    constructor
    case result => exact ended.result
    case output => simpa [Transcript.output, Action.written] using ended.output
    case deeds => simpa [List.filter_cons, Action.isDeed] using ended.deeds

/-- A blank line and an interruption before a string, and a line behind the end of the session. -/
theorem run_is_disciplined_until_exit :
    let session : Session := { start with showsBanner := false }
    let readings : List Reading :=
      [.line " \t" false, .interrupted, .line " \"ev\"" true, .line "exit " false,
        .line "sil" false]
    let refused := session.run .refusing readings
    (∃ before stop behind, readings ++ [.endOfInput] = before ++ stop :: behind ∧
      (∀ reading ∈ before, reading.ending? = none) ∧
      stop.ending? = some (session.run .unlimited readings).result ∧
      session.Disciplined before (session.run .unlimited readings)) ∧
    Reading.questions readings = [" \"ev\""] ∧
    (∃ quiet repaired behind block, readings = quiet ++ .line " \"ev\"" repaired :: behind ∧
      (∀ reading ∈ quiet, reading.ending? = none ∧ reading.question? = none) ∧
      (session.answer " \"ev\"").outcome.block? session.styled = some block ∧
      session.EndsInAnswer (quiet.length + 1) " \"ev\"" block refused) ∧
    start.showsBanner = true ∧ (start.run .refusing readings).output = encode banner := by
  intro session readings refused
  rcases run_is_disciplined session readings with ⟨disciplined, -, ends⟩
  rcases run_is_disciplined start readings with ⟨-, announced, -⟩
  have asked : Reading.questions readings = [" \"ev\""] := by decide +kernel
  exact ⟨disciplined, asked, ends rfl _ _ asked, rfl, (announced rfl).2.1⟩

end Session

end Concord
