/-
Open and closed connections.

All holders of a connection refer to it by its number, so a connection that one of them closes is
closed for all of them.  What its other side hears is `heard`: statements, and a closing as the last
thing if the connection is closed.  `Orderly` says so for every connection, and querying and closing
preserve it.
-/
import Mathlib.Data.List.Nodup
import ObjectQuery.Catalog.Connection

namespace ObjectQuery

/-- The connection whose other side an event reached. -/
def Event.line? : Event → Option Nat
  | .connect _ => none
  | .query line _ => some line
  | .close line => some line

namespace Switchboard

/-- What the other side of a connection heard since it was connected to. -/
def heard (board : Switchboard) (line : Nat) : List Event :=
  board.log.filter fun event => event.line? = some line

/-- The other side of a connection hears its statements, and then at most that it is closed. -/
structure Orderly (board : Switchboard) : Prop where
  heard : ∀ line < board.lines.length, board.heard line =
    (board.received line).map (Event.query line) ++
      if board.isClosed line then [.close line] else []
  known : ∀ event ∈ board.log, ∀ line, event.line? = some line → line < board.lines.length

/-- No statement reaches a connection that is out of use, and closing it succeeds and does
nothing. -/
structure OutOfUse (board : Switchboard) (line : Nat) : Prop where
  isClosed : board.isClosed line = true
  query : ∀ statement, ∃ source,
    board.query line statement = (.error (closedError source), board)
  close : board.close line = (.ok (), board)

variable {board : Switchboard} {line other : Nat} {opened : Line} {statement : Statement}

/-! ## Open and closed connections -/

theorem isClosed_eq_false_iff :
    board.isClosed line = false ↔
      ∃ opened, board.lines[line]? = some opened ∧ opened.isOpen = true := by
  unfold isClosed
  cases found : board.lines[line]? with
  | none => simp
  | some opened => simp

theorem lt_length_of_isClosed_eq_false (reached : board.isClosed line = false) :
    line < board.lines.length := by
  obtain ⟨opened, found, _⟩ := isClosed_eq_false_iff.mp reached
  exact (List.getElem?_eq_some_iff.mp found).1

theorem outOfUse (closed : board.isClosed line = true) : board.OutOfUse line := by
  unfold Switchboard.isClosed at closed
  cases found : board.lines[line]? with
  | none =>
    refine ⟨by simp [Switchboard.isClosed, found], fun statement => ⟨"", ?_⟩, ?_⟩
    · simp only [Switchboard.query, found]
    · simp only [Switchboard.close, found]
  | some opened =>
    have down : opened.isOpen = false := by simpa [found] using closed
    refine ⟨by simp [Switchboard.isClosed, found, down], fun statement => ⟨opened.source, ?_⟩, ?_⟩
    · simp only [Switchboard.query, found, down, Bool.false_eq_true, if_false]
    · simp only [Switchboard.close, found, down, Bool.false_eq_true, if_false]

theorem query_of_isOpen (found : board.lines[line]? = some opened) (up : opened.isOpen = true)
    (statement : Statement) :
    board.query line statement =
      (opened.connection.reply (board.received line ++ [statement]),
        board.record (.query line statement)) := by
  simp only [Switchboard.query, found, up, if_true]

theorem close_of_isOpen (found : board.lines[line]? = some opened) (up : opened.isOpen = true) :
    (board.close line).2 =
      ⟨board.lines.set line { opened with isOpen := false }, board.log ++ [.close line]⟩ := by
  simp only [Switchboard.close, found, up, if_true, record]

theorem length_lines_close (board : Switchboard) (line : Nat) :
    (board.close line).2.lines.length = board.lines.length := by
  cases closed : board.isClosed line with
  | true => rw [(outOfUse closed).close]
  | false =>
    obtain ⟨opened, found, up⟩ := isClosed_eq_false_iff.mp closed
    rw [close_of_isOpen found up]
    exact List.length_set

theorem log_close (board : Switchboard) (line : Nat) :
    (board.close line).2.log =
      board.log ++ if board.isClosed line then [] else [.close line] := by
  cases closed : board.isClosed line with
  | true => simp [(outOfUse closed).close]
  | false =>
    obtain ⟨opened, found, up⟩ := isClosed_eq_false_iff.mp closed
    simp [close_of_isOpen found up]

/-- Closing a connection closes that connection and no other. -/
theorem isClosed_close (board : Switchboard) (line other : Nat) :
    (board.close line).2.isClosed other = (decide (other = line) || board.isClosed other) := by
  cases closed : board.isClosed line with
  | true =>
    rw [(outOfUse closed).close]
    by_cases same : other = line
    · simp [same, closed]
    · simp [same]
  | false =>
    obtain ⟨opened, found, up⟩ := isClosed_eq_false_iff.mp closed
    have listed := lt_length_of_isClosed_eq_false closed
    rw [close_of_isOpen found up]
    unfold isClosed
    by_cases same : other = line
    · subst same
      simp [List.getElem?_set_self listed]
    · simp [List.getElem?_set_ne (Ne.symm same), same]

theorem isClosed_closeAll (board : Switchboard) (lines : List Nat) (other : Nat) :
    (board.closeAll lines).isClosed other = (decide (other ∈ lines) || board.isClosed other) := by
  induction lines generalizing board with
  | nil => simp [closeAll]
  | cons line rest ih =>
    rw [closeAll, ih, isClosed_close, ← Bool.or_assoc]
    by_cases same : other = line
    · simp [same]
    · simp [same]

/-- Connections are closed one after the other, without those that are closed already. -/
theorem log_closeAll {lines : List Nat} (distinct : lines.Nodup) :
    (board.closeAll lines).log =
      board.log ++ (lines.filter fun line => !board.isClosed line).map Event.close := by
  induction lines generalizing board with
  | nil => simp [closeAll]
  | cons line rest ih =>
    rw [List.nodup_cons] at distinct
    have others : (rest.filter fun other => !(board.close line).2.isClosed other) =
        rest.filter fun other => !board.isClosed other := by
      refine List.filter_congr fun other mem => ?_
      have differ : other ≠ line := fun same => distinct.1 (same ▸ mem)
      simp [isClosed_close, differ]
    rw [closeAll, ih distinct.2, others, log_close, List.append_assoc]
    cases closed : board.isClosed line with
    | true => simp [closed]
    | false => simp [closed]

/-! ## What the other side hears -/

theorem heard_record (event : Event) :
    (board.record event).heard line =
      board.heard line ++ if event.line? = some line then [event] else [] := by
  by_cases own : event.line? = some line
  · simp [heard, record, own]
  · simp [heard, record, own]

theorem received_record_query :
    (board.record (.query line statement)).received other =
      board.received other ++ if line = other then [statement] else [] := by
  by_cases same : line = other
  · simp [received, record, same]
  · simp [received, record, same]

/-- The statements are what was heard, without the closing. -/
theorem received_eq_filterMap_heard (board : Switchboard) (line : Nat) :
    board.received line = (board.heard line).filterMap fun event =>
      match event with
      | .query _ statement => some statement
      | _ => none := by
  rw [received, heard, List.filterMap_filter]
  congr 1
  funext event
  cases event with
  | connect source => simp [Event.line?]
  | query number statement => simp [Event.line?]
  | close number => simp [Event.line?]

theorem heard_close (board : Switchboard) (line other : Nat) :
    (board.close line).2.heard other = board.heard other ++
      if line = other ∧ board.isClosed line = false then [.close line] else [] := by
  unfold heard
  rw [log_close, List.filter_append]
  cases closed : board.isClosed line with
  | true => simp
  | false =>
    by_cases same : line = other
    · simp [same, Event.line?]
    · simp [same, Event.line?]

theorem received_close (board : Switchboard) (line other : Nat) :
    (board.close line).2.received other = board.received other := by
  unfold received
  rw [log_close]
  cases board.isClosed line with
  | true => simp
  | false => simp

namespace Orderly

theorem query (orderly : board.Orderly) (line : Nat) (statement : Statement) :
    (board.query line statement).2.Orderly := by
  cases closed : board.isClosed line with
  | true =>
    obtain ⟨source, refused⟩ := (outOfUse closed).query statement
    rwa [refused]
  | false =>
    obtain ⟨opened, found, up⟩ := isClosed_eq_false_iff.mp closed
    rw [query_of_isOpen found up]
    refine ⟨fun other listed => ?_, fun event mem other about => ?_⟩
    · show (board.record _).heard other = ((board.record _).received other).map (Event.query other) ++
        if board.isClosed other then [.close other] else []
      have before := orderly.heard other listed
      rw [heard_record, received_record_query, before]
      by_cases same : line = other
      -- The statement comes last, since its connection is open.
      · subst same
        simp [closed, Event.line?]
      · simp [same, Event.line?]
    · rcases List.mem_append.mp mem with earlier | last
      · exact orderly.known event earlier other about
      · rw [List.mem_singleton.mp last, Event.line?, Option.some.injEq] at about
        exact about ▸ lt_length_of_isClosed_eq_false closed

theorem close (orderly : board.Orderly) (line : Nat) : (board.close line).2.Orderly := by
  refine ⟨fun other listed => ?_, fun event mem other about => ?_⟩
  · rw [length_lines_close] at listed
    rw [heard_close, received_close, isClosed_close, orderly.heard other listed]
    by_cases same : line = other
    · subst same
      cases closed : board.isClosed line with
      | true => simp
      | false => simp
    · simp [same, Ne.symm same]
  · rw [length_lines_close]
    rw [log_close, List.mem_append] at mem
    rcases mem with earlier | last
    · exact orderly.known event earlier other about
    · cases closed : board.isClosed line with
      | true => simp [closed] at last
      | false =>
        rw [closed, if_neg Bool.false_ne_true, List.mem_singleton] at last
        rw [last, Event.line?, Option.some.injEq] at about
        exact about ▸ lt_length_of_isClosed_eq_false closed

theorem closeAll (orderly : board.Orderly) (lines : List Nat) : (board.closeAll lines).Orderly := by
  induction lines generalizing board with
  | nil => exact orderly
  | cons line rest ih => exact ih (orderly.close line)

theorem count_close_le_one (orderly : board.Orderly) (line : Nat) :
    board.log.count (.close line) ≤ 1 := by
  have counted : board.log.count (.close line) = (board.heard line).count (.close line) := by
    unfold Switchboard.heard
    rw [List.count_filter (by simp [Event.line?])]
  have statements : ((board.received line).map (Event.query line)).count (.close line) = 0 := by
    refine List.count_eq_zero.mpr fun mem => ?_
    obtain ⟨_, _, differ⟩ := List.mem_map.mp mem
    exact Event.noConfusion differ
  rw [counted]
  by_cases listed : line < board.lines.length
  · rw [orderly.heard line listed, List.count_append, statements]
    cases board.isClosed line with
    | true => simp
    | false => simp
  · have silent : board.heard line = [] := by
      refine List.filter_eq_nil_iff.mpr fun event mem about => ?_
      exact listed (orderly.known event mem line (of_decide_eq_true about))
    simp [silent]

end Orderly

/-- A closed connection whose other side heard these events. -/
structure Ended (line : Nat) (events : List Event) (board : Switchboard) : Prop where
  isClosed : board.isClosed line = true
  heard : board.heard line = events

namespace Ended

variable {events : List Event}

theorem query (ended : board.Ended line events) (other : Nat) (statement : Statement) :
    (board.query other statement).2.Ended line events := by
  cases closed : board.isClosed other with
  | true =>
    obtain ⟨source, refused⟩ := (outOfUse closed).query statement
    rwa [refused]
  | false =>
    obtain ⟨opened, found, up⟩ := isClosed_eq_false_iff.mp closed
    have differ : other ≠ line := by
      intro same
      rw [same, ended.isClosed] at closed
      exact Bool.noConfusion closed
    rw [query_of_isOpen found up]
    refine ⟨ended.isClosed, ?_⟩
    rw [heard_record, ended.heard]
    simp [Event.line?, differ]

theorem close (ended : board.Ended line events) (other : Nat) :
    (board.close other).2.Ended line events := by
  constructor
  · rw [isClosed_close, ended.isClosed, Bool.or_true]
  · have nothing : ¬ (other = line ∧ board.isClosed other = false) := by
      rintro ⟨rfl, opened⟩
      rw [ended.isClosed] at opened
      exact Bool.noConfusion opened
    rw [heard_close, if_neg nothing, List.append_nil, ended.heard]

theorem closeAll (ended : board.Ended line events) (lines : List Nat) :
    (board.closeAll lines).Ended line events := by
  induction lines generalizing board with
  | nil => exact ended
  | cons other rest ih => exact ih (ended.close other)

end Ended
end Switchboard
end ObjectQuery
