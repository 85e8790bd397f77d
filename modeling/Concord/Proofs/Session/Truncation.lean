import Concord.Proofs.Session.Aftermath

/-!
# Sessions whose output breaks off

A sink with little room takes the output of a session as far as there is room, and refuses the rest.
The session that writes into it is the session that writes freely, cut short: it breaks off in its
banner or in the answer to a line.  That line has been answered and kept, and no line behind it is
asked for.
-/

namespace Concord

open Text.Utf8 (encode)

namespace Sink

/-- A sink that takes so many bytes and refuses whatever is written then. -/
def limited (room : Nat) : Sink :=
  ⟨some room, false⟩

/-- The error of a write that the sink has refused. -/
def refusal : Error :=
  .ofKind (.io "write refused")

variable {room : Nat} {action : Action} {actions first : List Action} {bytes : List UInt8}

theorem perform_limited_of_le (fits : action.written.length ≤ room) :
    (limited room).perform action = ⟨[action], .ok (limited (room - action.written.length))⟩ := by
  cases action with
  | write bytes =>
    have fits : bytes.length ≤ room := fits
    simp [perform, limited, Action.written, fits]
  | _ => rfl

/-- What fits is performed, and the rest finds the room that is left. -/
theorem performAll_limited_append (fits : (first.flatMap Action.written).length ≤ room)
    (second : List Action) :
    (limited room).performAll (first ++ second) =
      let rest := (limited (room - (first.flatMap Action.written).length)).performAll second
      ⟨first ++ rest.actions, rest.result⟩ := by
  induction first generalizing room with
  | nil => rfl
  | cons action others inductionHypothesis =>
    rw [List.flatMap_cons, List.length_append] at fits
    have now : action.written.length ≤ room := by omega
    have later : (others.flatMap Action.written).length ≤ room - action.written.length := by omega
    simp [performAll, perform_limited_of_le now, inductionHypothesis later, Nat.sub_sub]

theorem performAll_limited_of_le (fits : (actions.flatMap Action.written).length ≤ room) :
    (limited room).performAll actions =
      ⟨actions, .ok (limited (room - (actions.flatMap Action.written).length))⟩ := by
  simpa [performAll] using performAll_limited_append fits []

/-- A write that does not fit is the last action, and is performed as far as it fits. -/
theorem performAll_limited_write (silent : first.flatMap Action.written = [])
    (short : room < bytes.length) (second : List Action) :
    (limited room).performAll (first ++ .write bytes :: second) =
      ⟨first ++ [.write (bytes.take room)], .error refusal⟩ := by
  have excess : ¬bytes.length ≤ room := Nat.not_le.mpr short
  rw [performAll_limited_append (by simp [silent]), silent]
  simp [performAll, perform, limited, excess, refusal]

end Sink

namespace Session

variable {session : Session} {room : Nat} {reading : Reading} {before behind : List Reading}

/-! ## Sessions in little room -/

theorem performAll_turn (session : Session) (reading : Reading)
    (fits : ((session.turn reading).actions.flatMap Action.written).length ≤ room) :
    (Sink.limited room).performAll (.read session.prompt :: (session.turn reading).actions) =
      ⟨.read session.prompt :: (session.turn reading).actions,
        .ok (.limited (room - ((session.turn reading).actions.flatMap Action.written).length))⟩ :=
  Sink.performAll_limited_of_le fits

/-- A conversation breaks off at a block that does not fit. -/
theorem respond_limited_of_lt {next : Session → Sink → Transcript} {text : String}
    {block : List UInt8} {events : List LogEvent}
    (actions : (session.turn reading).actions =
      events.map Action.log ++ [.remember text, .write block, .flush])
    (short : room < block.length) :
    session.respond (.limited room) reading next =
      ⟨.read session.prompt :: events.map Action.log ++ [.remember text, .write (block.take room)],
        .error Sink.refusal, (session.turn reading).session⟩ := by
  let noted : List Action := .read session.prompt :: events.map Action.log ++ [.remember text]
  have split : .read session.prompt :: (session.turn reading).actions =
      noted ++ .write block :: [.flush] := by
    simp [noted, actions]
  have silent : noted.flatMap Action.written = [] := by
    simp [noted, Action.written]
  have performed := Sink.performAll_limited_write silent short [.flush]
  rw [← split] at performed
  simp [respond, performed, noted]

/-- Where everything fits, nothing is different. -/
theorem converse_limited_of_le (session : Session) (readings : List Reading)
    (fits : ((session.exchanges (Reading.heard readings)).flatMap Action.written).length ≤ room) :
    session.converse (.limited room) readings = session.converse .unlimited readings := by
  have performed := Sink.performAll_unlimited
  induction readings generalizing session room with
  | nil =>
    have ends : Reading.endOfInput.ending? = some (.ok ()) := rfl
    have now := session.performAll_turn .endOfInput (Nat.zero_le room)
    rw [converse, respond_of_ending now ends, converse, respond_of_ending (performed _) ends]
  | cons reading others inductionHypothesis =>
    cases ends : reading.ending? with
    | some result =>
      rw [Reading.heard_of_ending ends, written_exchanges_cons, List.length_append] at fits
      have now := session.performAll_turn reading (Nat.le_trans (Nat.le_add_right _ _) fits)
      rw [converse, respond_of_ending now ends, converse, respond_of_ending (performed _) ends]
    | none =>
      rw [Reading.heard_of_going_on ends, written_exchanges_cons, List.length_append] at fits
      have now := session.performAll_turn reading (Nat.le_trans (Nat.le_add_right _ _) fits)
      have later := inductionHypothesis (session.turn reading).session (Nat.le_sub_of_add_le' fits)
      rw [converse, respond_of_going_on now ends, converse, respond_of_going_on (performed _) ends,
        later]

/-! ## Where it breaks off -/

/-- With so much room, a session breaks off in the answer to this line, behind these readings. -/
structure BreaksOff (session : Session) (room : Nat) (before : List Reading) (text : String)
    (repaired : Bool) : Prop where
  going : ∀ reading ∈ before ++ [.line text repaired], reading.ending? = none
  fits : ((session.exchanges before).flatMap Action.written).length ≤ room
  breaks : room <
    ((session.exchanges (before ++ [.line text repaired])).flatMap Action.written).length

/-- What does not fit breaks off in the answer to a line. -/
theorem exists_breaksOff (session : Session) (readings : List Reading)
    (short : room < ((session.exchanges (Reading.heard readings)).flatMap Action.written).length) :
    ∃ before text repaired behind, readings = before ++ .line text repaired :: behind ∧
      session.BreaksOff room before text repaired := by
  induction readings generalizing session room with
  | nil => exact absurd short (Nat.not_lt_zero room)
  | cons reading others inductionHypothesis =>
    by_cases fits : ((session.turn reading).actions.flatMap Action.written).length ≤ room
    · cases ends : reading.ending? with
      | some result =>
        rw [Reading.heard_of_ending ends, written_exchanges_cons, exchanges_nil, List.flatMap_nil,
          List.append_nil] at short
        exact absurd short (Nat.not_lt.mpr fits)
      | none =>
        rw [Reading.heard_of_going_on ends, written_exchanges_cons, List.length_append] at short
        have later := Nat.sub_lt_left_of_lt_add fits short
        rcases inductionHypothesis (session.turn reading).session later with
          ⟨before, text, repaired, behind, rfl, going, within, breaks⟩
        refine ⟨reading :: before, text, repaired, behind, rfl, ?_, ?_, ?_⟩
        · exact List.forall_mem_cons.mpr ⟨ends, going⟩
        · rw [written_exchanges_cons, List.length_append]
          omega
        · rw [List.cons_append, written_exchanges_cons, List.length_append]
          omega
    · rcases session.actions_turn reading with
        ⟨events, actions⟩ | ⟨text, repaired, events, block, rfl, going, -⟩
      · simp [actions] at fits
      · refine ⟨[], text, repaired, others, rfl, ?_, Nat.zero_le _, ?_⟩
        · exact List.forall_mem_singleton.mpr going
        · rw [List.nil_append, written_exchanges_cons, List.length_append]
          omega

/-- The answer in which a session breaks off is written as far as there is room. -/
theorem BreaksOff.converse_eq {text : String} {repaired : Bool}
    (breaksOff : session.BreaksOff room before text repaired) (behind : List Reading) :
    ∃ events : List LogEvent, ∃ block,
      ((session.after before).turn (.line text repaired)).actions =
        events.map Action.log ++ [.remember text, .writeText block, .flush] ∧
      session.converse (.limited room) (before ++ .line text repaired :: behind) =
        ⟨session.exchanges before ++ .read (session.after before).prompt ::
            events.map Action.log ++ [.remember text, .write ((encode block).take
              (room - ((session.exchanges before).flatMap Action.written).length))],
          .error Sink.refusal, session.after (before ++ [.line text repaired])⟩ := by
  induction before generalizing session room with
  | nil =>
    have short := breaksOff.breaks
    rw [List.nil_append, written_exchanges_cons, exchanges_nil, List.flatMap_nil,
      List.append_nil] at short
    rcases session.actions_turn (.line text repaired) with
      ⟨events, actions⟩ | ⟨kept, _, events, block, same, -, actions⟩
    · simp [actions] at short
    · cases same
      have missing : room < (encode block).length := by
        simpa [actions, Action.written, Action.writeText] using short
      refine ⟨events, block, actions, ?_⟩
      rw [List.nil_append, converse, respond_limited_of_lt actions missing]
      simp
  | cons reading others inductionHypothesis =>
    rcases breaksOff with ⟨going, fits, breaks⟩
    rw [List.cons_append, List.forall_mem_cons] at going
    rcases going with ⟨first, rest⟩
    rw [written_exchanges_cons, List.length_append] at fits
    rw [List.cons_append, written_exchanges_cons, List.length_append] at breaks
    have now := session.performAll_turn reading (Nat.le_trans (Nat.le_add_right _ _) fits)
    have later : (session.turn reading).session.BreaksOff
        (room - ((session.turn reading).actions.flatMap Action.written).length) others text
        repaired :=
      ⟨rest, Nat.le_sub_of_add_le' fits, by omega⟩
    rcases inductionHypothesis later with ⟨events, block, actions, conversed⟩
    refine ⟨events, block, actions, ?_⟩
    rw [List.cons_append, converse, respond_of_going_on now first, conversed,
      written_exchanges_cons, List.length_append, Nat.sub_sub]
    simp

/-- The banner breaks off where it does not fit. -/
theorem run_limited_of_lt (readings : List Reading)
    (short : room < (session.opening.flatMap Action.written).length) :
    session.showsBanner = true ∧ room < (encode banner).length ∧
      session.run (.limited room) readings =
        ⟨[.log (.sessionStarted session.scope session.policy), .write ((encode banner).take room)],
          .error Sink.refusal, session⟩ := by
  cases shown : session.showsBanner with
  | false => simp [written_opening, shown, encode] at short
  | true =>
    rw [written_opening, shown] at short
    have short : room < (encode banner).length := short
    refine ⟨rfl, short, ?_⟩
    have opening : session.opening =
        [.log (.sessionStarted session.scope session.policy)] ++
          .write (encode banner) :: [.flush] := by
      simp [Session.opening, shown, Action.writeText]
    rw [run, opening, Sink.performAll_limited_write rfl short]
    rfl

/-- Behind a banner that fits, a session converses in the room that is left. -/
theorem run_limited_of_le (readings : List Reading)
    (fits : (session.opening.flatMap Action.written).length ≤ room) :
    session.run (.limited room) readings =
      let others := session.converse
        (.limited (room - (session.opening.flatMap Action.written).length)) readings
      ⟨session.opening ++ others.actions, others.result, others.session⟩ := by
  simp [run, Sink.performAll_limited_of_le fits]

/-- The session breaks off in its banner: no line has been asked for. -/
structure CutInBanner (session : Session) (readings : List Reading) (room : Nat) : Prop where
  shown : session.showsBanner = true
  short : room < (encode banner).length
  prompts : (session.run (.limited room) readings).prompts = []
  history : (session.run (.limited room) readings).history = []
  untouched : (session.run (.limited room) readings).session = session

/--
The session breaks off in the answer to a line.  Everything up to that line has happened as it would
have happened anyway, and nothing has happened since.
-/
structure CutInAnswer (session : Session) (readings : List Reading) (room : Nat)
    (before : List Reading) (text : String) (repaired : Bool) (behind : List Reading) : Prop where
  heard : readings = before ++ .line text repaired :: behind
  /-- What comes before the answer fits, and the answer does not. -/
  fits : (session.run .unlimited before).output.length ≤ room
  short : room < (session.run .unlimited (before ++ [.line text repaired])).output.length
  written : (session.run .unlimited (before ++ [.line text repaired])).output <+:
    (session.run .unlimited readings).output
  /-- The line is the last that was asked for. -/
  prompts : (session.run (.limited room) readings).prompts =
    List.replicate (before.length + 1) session.prompt
  history : (session.run (.limited room) readings).history =
    (session.run .unlimited before).history ++ [text]
  events : (session.run (.limited room) readings).events ++ [.sessionEnded] =
    (session.run .unlimited (before ++ [.line text repaired])).events
  evaluated : (session.run (.limited room) readings).session =
    (session.run .unlimited (before ++ [.line text repaired])).session

section Answer

variable {text : String} {repaired : Bool}
  (opened : (session.opening.flatMap Action.written).length ≤ room)
  (breaksOff : session.BreaksOff
    (room - (session.opening.flatMap Action.written).length) before text repaired)

include opened breaksOff

theorem BreaksOff.output_eq (behind : List Reading) :
    (session.run (.limited room) (before ++ .line text repaired :: behind)).output =
      (session.run .unlimited (before ++ .line text repaired :: behind)).output.take room := by
  rcases breaksOff.converse_eq behind with ⟨events, block, actions, conversed⟩
  rcases breaksOff with ⟨going, fits, breaks⟩
  let front := session.opening.flatMap Action.written ++
    (session.exchanges before).flatMap Action.written
  let answer := encode block
  have cut : (session.run (.limited room) (before ++ .line text repaired :: behind)).output =
      front ++ answer.take (room - front.length) := by
    rw [run_limited_of_le _ opened, conversed]
    simp [Transcript.output, Action.written, front, answer, Nat.sub_sub]
  have answered : session.opening.flatMap Action.written ++
      (session.exchanges (before ++ [.line text repaired])).flatMap Action.written =
        front ++ answer := by
    simp [Action.written, Action.writeText, front, answer, actions]
  have within : front.length ≤ room := by
    rw [List.length_append]
    omega
  have beyond : room - front.length ≤ answer.length := by
    have lengths := congrArg List.length answered
    rw [List.length_append, List.length_append] at lengths
    omega
  have taken (rest : List UInt8) :
      (front ++ answer ++ rest).take room = front ++ answer.take (room - front.length) := by
    rw [List.append_assoc, List.take_append, List.take_of_length_le within,
      List.take_append_of_le_length beyond]
  rw [cut, List.append_cons before, output_run_append going, output_run_of_going_on going, answered,
    taken]

theorem BreaksOff.cutInAnswer (behind : List Reading) :
    session.CutInAnswer (before ++ .line text repaired :: behind) room before text repaired
      behind := by
  rcases breaksOff.converse_eq behind with ⟨events, block, actions, conversed⟩
  rcases breaksOff with ⟨going, fits, breaks⟩
  have earlierGoing : ∀ reading ∈ before, reading.ending? = none :=
    fun reading member => going reading (List.mem_append_left _ member)
  have earlier := session.run_of_going_on earlierGoing
  have answered := session.run_of_going_on going
  have cut := run_limited_of_le (before ++ .line text repaired :: behind) opened
  rw [conversed] at cut
  generalize (encode block).take _ = part at cut
  constructor
  case heard => rfl
  case fits =>
    rw [output_run_of_going_on earlierGoing, List.length_append]
    omega
  case short =>
    rw [output_run_of_going_on going, List.length_append]
    omega
  case written =>
    have split : before ++ .line text repaired :: behind =
        (before ++ [.line text repaired]) ++ behind := List.append_cons ..
    rw [split, output_run_append going]
    exact List.prefix_append _ _
  case prompts =>
    rw [cut]
    simp [Transcript.prompts, prompts_exchanges, List.filterMap_cons, Action.prompt?,
      List.replicate_succ']
  case history =>
    rw [cut, earlier]
    simp [Transcript.history, List.filterMap_cons, Action.remembered?]
  case events =>
    rw [cut, answered]
    simp [Transcript.events, List.filterMap_cons, Action.event?, actions, Action.writeText]
  case evaluated => rw [cut, answered]

end Answer

/-- Where the whole output fits, nothing is different. -/
theorem run_limited_of_output_le (readings : List Reading)
    (fits : (session.run .unlimited readings).output.length ≤ room) :
    session.run (.limited room) readings = session.run .unlimited readings := by
  rw [output_run_unlimited, List.length_append] at fits
  rw [run_limited_of_le readings (Nat.le_trans (Nat.le_add_right _ _) fits),
    converse_limited_of_le _ _ (Nat.le_sub_of_add_le' fits), run_unlimited, converse_unlimited]

theorem cut_in_banner (readings : List Reading)
    (short : room < (session.opening.flatMap Action.written).length) :
    (session.run (.limited room) readings).output =
        (session.run .unlimited readings).output.take room ∧
      (session.run (.limited room) readings).result = .error Sink.refusal ∧
      session.CutInBanner readings room := by
  rcases run_limited_of_lt readings short with ⟨shown, missing, cut⟩
  refine ⟨?_, ?_, shown, missing, ?_, ?_, ?_⟩
  · rw [output_run_unlimited, List.take_append_of_le_length (Nat.le_of_lt short), written_opening,
      shown, cut]
    simp [Transcript.output, Action.written]
  · rw [cut]
  · rw [cut]
    rfl
  · rw [cut]
    rfl
  · rw [cut]

theorem cut_in_answer (readings : List Reading)
    (opened : (session.opening.flatMap Action.written).length ≤ room)
    (short : room < (session.run .unlimited readings).output.length) :
    (session.run (.limited room) readings).output =
        (session.run .unlimited readings).output.take room ∧
      (session.run (.limited room) readings).result = .error Sink.refusal ∧
      ∃ before text repaired behind,
        session.CutInAnswer readings room before text repaired behind := by
  rw [output_run_unlimited, List.length_append] at short
  rcases session.exists_breaksOff readings (Nat.sub_lt_left_of_lt_add opened short) with
    ⟨before, text, repaired, behind, rfl, breaksOff⟩
  refine ⟨breaksOff.output_eq opened behind, ?_, before, text, repaired, behind,
    breaksOff.cutInAnswer opened behind⟩
  rcases breaksOff.converse_eq behind with ⟨events, block, -, conversed⟩
  rw [run_limited_of_le _ opened, conversed]

/--
A session whose output takes so many bytes writes the first of the bytes that it would write anyway.
If that is all of them, nothing is different.  Otherwise it ends with the refusal, and it breaks off
in its banner or in the answer to a line.
-/
theorem run_truncated (session : Session) (readings : List Reading) (room : Nat) :
    let whole := session.run .unlimited readings
    let cut := session.run (.limited room) readings
    cut.output = whole.output.take room ∧
      (whole.output.length ≤ room → cut = whole) ∧
      (room < whole.output.length →
        cut.result = .error (.ofKind (.io "write refused")) ∧
        (session.CutInBanner readings room ∨
          ∃ before text repaired behind,
            session.CutInAnswer readings room before text repaired behind)) := by
  intro whole cut
  rcases Nat.lt_or_ge room whole.output.length with short | fits
  · rcases Nat.lt_or_ge room (session.opening.flatMap Action.written).length with unopened | opened
    · rcases cut_in_banner readings unopened with ⟨taken, refused, place⟩
      exact ⟨taken, fun fits => absurd short (Nat.not_lt.mpr fits), fun _ => ⟨refused, .inl place⟩⟩
    · rcases cut_in_answer readings opened short with ⟨taken, refused, place⟩
      exact ⟨taken, fun fits => absurd short (Nat.not_lt.mpr fits), fun _ => ⟨refused, .inr place⟩⟩
  · have same : cut = whole := run_limited_of_output_le readings fits
    rw [same]
    exact ⟨(List.take_of_length_le fits).symm, fun _ => rfl,
      fun short => absurd short (Nat.not_lt.mpr fits)⟩

/-- Of two answers the second does not fit, or both do. -/
theorem run_truncated_of_two_lines :
    let session : Session := { start with showsBanner := false }
    let readings : List Reading := [.line "\"ev\"" false, .line "\"x\"" true]
    let whole := session.run .unlimited readings
    let cut := session.run (.limited 60) readings
    60 < whole.output.length ∧ cut.output = whole.output.take 60 ∧
      cut.result = .error (.ofKind (.io "write refused")) ∧
      (session.CutInBanner readings 60 ∨
        ∃ before text repaired behind,
          session.CutInAnswer readings 60 before text repaired behind) ∧
      whole.output.length ≤ 100 ∧ session.run (.limited 100) readings = whole := by
  intro session readings whole cut
  have length : whole.output.length = 97 := by decide +kernel
  have short : 60 < whole.output.length := by omega
  have enough : whole.output.length ≤ 100 := by omega
  rcases run_truncated session readings 60 with ⟨taken, -, broken⟩
  rcases broken short with ⟨refused, place⟩
  exact ⟨short, taken, refused, place, enough, (run_truncated session readings 100).2.1 enough⟩

end Session

end Concord
