/-
  QuietEmit.Proofs.Watch.Trace

  A watch session against the list of what has reached it. Buffer, phase, hook
  calls and answers are each a function of that list alone (`Trace.gathered`,
  `Trace.phase`, `Trace.hookCalls`, `Trace.answers`), said without a session.

  One event keeps the session in step with its list (`Follows.take`), and so
  does any run (`follows_after`); `session_follows_trace` is what that says of
  every call of every run.
-/
import Mathlib.Data.List.DropRight
import Mathlib.Data.List.Infix
import Mathlib.Data.List.ReduceOption
import QuietEmit.Watch.Session

namespace QuietEmit.Watch

/-! ## Events -/

/-- What reaches a session: a diagnostic, or a status. -/
inductive Event where
  | diagnostic (d : Diagnostic)
  | status (d : Diagnostic)
deriving DecidableEq, Repr

namespace Event

/-- The signal that an event gives. A diagnostic gives none, whatever its code. -/
def signal? (codes : StatusCodes) : Event → Option Signal
  | .diagnostic _ => none
  | .status d => some (codes.classify d.code)

/-- The event starts a cycle. -/
def opens (codes : StatusCodes) (e : Event) : Bool := e.signal? codes == some .cycleStart

/-- The event ends a cycle. -/
def closes (codes : StatusCodes) (e : Event) : Bool := e.signal? codes == some .cycleDone

/-- The record that an event leaves: diagnostics and the statuses that end a cycle do. -/
def record? (codes : StatusCodes) : Event → Option Diagnostic
  | .diagnostic d => some d
  | .status d => if codes.classify d.code = .cycleDone then some d else none

/-- The phase that an event leads to. -/
def phase? (codes : StatusCodes) (e : Event) : Option Phase :=
  match e.signal? codes with
  | some .cycleStart => some .compiling
  | some .cycleDone => some .done
  | _ => none

end Event

/-- The report that a hook call passes on. -/
def HookCall.report? : HookCall → Option CycleReport
  | .start => none
  | .done r => some r

/-! ## What a list of events says -/

namespace Trace

/-- The records since the last start, or since the beginning, in order of arrival. -/
def gathered (codes : StatusCodes) (trace : List Event) : List Diagnostic :=
  (trace.rtakeWhile fun e => !e.opens codes).filterMap (Event.record? codes)

/-- The phase that the last start or end leads to. -/
def phase (codes : StatusCodes) (trace : List Event) : Phase :=
  (trace.filterMap (Event.phase? codes)).getLast?.getD .idle

/-- What was gathered, and how much that is. -/
def report (codes : StatusCodes) (trace : List Event) : CycleReport :=
  ⟨gathered codes trace, (gathered codes trace).length⟩

/-- What the last event is answered. -/
def answer? (codes : StatusCodes) (trace : List Event) : Option CycleReport :=
  if trace.getLast?.any (Event.closes codes) then some (report codes trace) else none

/-- What the events are answered, one after the other. -/
def answers (codes : StatusCodes) (trace : List Event) : List (Option CycleReport) :=
  trace.inits.tail.map (answer? codes)

/-- The hook that the last event calls. -/
def hookCall? (codes : StatusCodes) (trace : List Event) : Option HookCall :=
  match trace.getLast?.bind (Event.signal? codes) with
  | some .cycleStart => some .start
  | some .cycleDone => some (.done (report codes trace))
  | _ => none

/-- The hooks that the events call, in order. -/
def hookCalls (codes : StatusCodes) (trace : List Event) : List HookCall :=
  trace.inits.filterMap (hookCall? codes)

variable (codes : StatusCodes) (trace : List Event) (e : Event)

theorem gathered_of_opens (h : e.opens codes = true) : gathered codes (trace ++ [e]) = [] := by
  rw [gathered, List.rtakeWhile_concat_neg _ _ _ (by simp [h])]
  rfl

theorem gathered_of_not_opens (h : e.opens codes = false) :
    gathered codes (trace ++ [e]) = gathered codes trace ++ (e.record? codes).toList := by
  rw [gathered, List.rtakeWhile_concat_pos _ _ _ (by simp [h]), List.filterMap_append, gathered]
  cases hr : e.record? codes <;> simp [hr]

theorem phase_append :
    phase codes (trace ++ [e]) = (e.phase? codes).getD (phase codes trace) := by
  rw [phase, List.filterMap_append]
  cases he : e.phase? codes <;> simp [he, phase]

theorem answers_append :
    answers codes (trace ++ [e]) = answers codes trace ++ [answer? codes (trace ++ [e])] := by
  have hinits : trace.inits ≠ [] := by
    cases trace <;> simp
  rw [answers, List.inits_append, List.tail_append_of_ne_nil hinits, List.map_append, answers]
  rfl

theorem hookCalls_append :
    hookCalls codes (trace ++ [e]) =
      hookCalls codes trace ++ (hookCall? codes (trace ++ [e])).toList := by
  rw [hookCalls, List.inits_append, List.filterMap_append, hookCalls]
  cases h : hookCall? codes (trace ++ [e]) <;> simp [h]

/-- The hook for a start is called once for each start. -/
theorem count_start_hookCalls :
    (hookCalls codes trace).count .start = trace.countP (Event.opens codes) := by
  induction trace using List.reverseRecOn with
  | nil => rfl
  | append_singleton es e ih =>
      rw [hookCalls_append, List.count_append, List.countP_append, ih]
      congr 1
      rw [hookCall?, List.getLast?_concat, Option.bind_some]
      cases he : e.signal? codes with
      | none => simp [Event.opens, he]
      | some signal => cases signal <;> simp [Event.opens, he]

/-- The hook for an end is called with the reports that are answered, and at no other time. -/
theorem reports_hookCalls :
    (hookCalls codes trace).filterMap HookCall.report? = (answers codes trace).reduceOption := by
  induction trace using List.reverseRecOn with
  | nil => rfl
  | append_singleton es e ih =>
      rw [answers_append, List.reduceOption_append, ← ih, hookCalls_append, List.filterMap_append]
      congr 1
      rw [hookCall?, answer?, List.getLast?_concat, Option.bind_some, Option.any_some]
      cases he : e.signal? codes with
      | none => simp [Event.closes, he]
      | some signal => cases signal <;> simp [Event.closes, he, HookCall.report?]

/-- A report is answered to each event that ends a cycle, and to no other. -/
theorem length_reports :
    (answers codes trace).reduceOption.length = trace.countP (Event.closes codes) := by
  induction trace using List.reverseRecOn with
  | nil => rfl
  | append_singleton es e ih =>
      rw [answers_append, List.reduceOption_append, List.length_append, List.countP_append, ih]
      congr 1
      rw [answer?, List.getLast?_concat, Option.any_some]
      cases he : e.closes codes <;> simp [he]

end Trace

/-! ## Runs of a session -/

namespace Session

/-- Hand one event to a session; a diagnostic is answered with nothing. -/
def take (s : Session) : Event → Option CycleReport × Session
  | .diagnostic d => (none, s.receive d)
  | .status d => s.receiveStatus d

/-- The session after some events. -/
def after (s : Session) (trace : List Event) : Session :=
  trace.foldl (fun s e => (s.take e).2) s

/-- What the events are answered, one after the other. -/
def answers (s : Session) : List Event → List (Option CycleReport)
  | [] => []
  | e :: es => (s.take e).1 :: (s.take e).2.answers es

theorem after_concat (s : Session) (trace : List Event) (e : Event) :
    s.after (trace ++ [e]) = ((s.after trace).take e).2 := List.foldl_concat _ _ _ _

theorem answers_concat (s : Session) (trace : List Event) (e : Event) :
    s.answers (trace ++ [e]) = s.answers trace ++ [((s.after trace).take e).1] := by
  induction trace generalizing s with
  | nil => rfl
  | cons e' es ih => rw [List.cons_append, answers, ih, answers]; rfl

end Session

/-- The session is what the list of events says. -/
structure Follows (codes : StatusCodes) (trace : List Event) (s : Session) : Prop where
  codes_eq : s.codes = codes
  buffer_eq : s.buffer = Trace.gathered codes trace
  phase_eq : s.phase = Trace.phase codes trace
  calls_eq : s.calls = Trace.hookCalls codes trace

variable {codes : StatusCodes} {trace : List Event} {s : Session}

/-- One event keeps a session in step, and is answered what the list says. -/
theorem Follows.take (h : Follows codes trace s) (e : Event) :
    Follows codes (trace ++ [e]) (s.take e).2 ∧
      (s.take e).1 = Trace.answer? codes (trace ++ [e]) := by
  obtain ⟨rfl, hbuffer, hphase, hcalls⟩ := h
  cases e with
  | diagnostic d =>
      refine ⟨⟨rfl, ?_, ?_, ?_⟩, ?_⟩
      · rw [Trace.gathered_of_not_opens _ _ _ rfl, ← hbuffer]
        rfl
      · rw [Trace.phase_append, ← hphase]
        rfl
      · rw [Trace.hookCalls_append, ← hcalls]
        simp [Trace.hookCall?, Event.signal?, Session.take, Session.receive]
      · simp [Trace.answer?, Event.closes, Event.signal?, Session.take]
  | status d =>
      rw [Session.take, Session.receiveStatus]
      cases hd : s.codes.classify d.code with
      | cycleStart =>
          refine ⟨⟨rfl, ?_, ?_, ?_⟩, ?_⟩
          · rw [Trace.gathered_of_opens _ _ _ (by simp [Event.opens, Event.signal?, hd])]
          · rw [Trace.phase_append]
            simp [Event.phase?, Event.signal?, hd]
          · rw [Trace.hookCalls_append, ← hcalls]
            simp [Trace.hookCall?, Event.signal?, hd]
          · simp [Trace.answer?, Event.closes, Event.signal?, hd]
      | cycleDone =>
          have hgathered : Trace.gathered s.codes (trace ++ [.status d]) = s.buffer ++ [d] := by
            rw [Trace.gathered_of_not_opens _ _ _ (by simp [Event.opens, Event.signal?, hd]),
              ← hbuffer]
            simp [Event.record?, hd]
          refine ⟨⟨rfl, hgathered.symm, ?_, ?_⟩, ?_⟩
          · rw [Trace.phase_append]
            simp [Event.phase?, Event.signal?, hd]
          · rw [Trace.hookCalls_append, ← hcalls]
            simp [Trace.hookCall?, Event.signal?, hd, Trace.report, hgathered]
          · simp [Trace.answer?, Event.closes, Event.signal?, hd, Trace.report, hgathered]
      | other =>
          refine ⟨⟨rfl, ?_, ?_, ?_⟩, ?_⟩
          · rw [Trace.gathered_of_not_opens _ _ _ (by simp [Event.opens, Event.signal?, hd]),
              ← hbuffer]
            simp [Event.record?, hd]
          · rw [Trace.phase_append, ← hphase]
            simp [Event.phase?, Event.signal?, hd]
          · rw [Trace.hookCalls_append, ← hcalls]
            simp [Trace.hookCall?, Event.signal?, hd]
          · simp [Trace.answer?, Event.closes, Event.signal?, hd]

/-- Any run keeps a fresh session in step, and its events are answered what the list says. -/
theorem follows_after (codes : StatusCodes) (display : Display) (trace : List Event) :
    Follows codes trace ((Session.fresh codes display).after trace) ∧
      (Session.fresh codes display).answers trace = Trace.answers codes trace := by
  induction trace using List.reverseRecOn with
  | nil => exact ⟨⟨rfl, rfl, rfl, rfl⟩, rfl⟩
  | append_singleton es e ih =>
      obtain ⟨hfollows, hanswers⟩ := ih
      obtain ⟨hnext, hanswer⟩ := hfollows.take e
      rw [Session.after_concat, Session.answers_concat, Trace.answers_append, hanswers, hanswer]
      exact ⟨hnext, rfl⟩

/-- A session that was fresh says after any events what their list says: the buffer holds the
records since the last start, the phase is that of the last start or end, each start and each end
has called its hook once, and the reports answered to ends, of which there is one for each, are
those that the hooks were given. The next event does as it should: an end is answered with the
buffer, itself last, and its length; a status that is neither start nor end changes and prints
nothing; a diagnostic is buffered and does nothing else, whatever its code. -/
theorem session_follows_trace (codes : StatusCodes) (display : Display) (trace : List Event) :
    let start := Session.fresh codes display
    let s := start.after trace
    s.buffer = Trace.gathered codes trace ∧
    s.phase = Trace.phase codes trace ∧
    start.answers trace = Trace.answers codes trace ∧
    s.calls = Trace.hookCalls codes trace ∧
    s.calls.count .start = trace.countP (Event.opens codes) ∧
    s.calls.filterMap HookCall.report? = (start.answers trace).reduceOption ∧
    (start.answers trace).reduceOption.length = trace.countP (Event.closes codes) ∧
    (∀ d, codes.classify d.code = .cycleStart → (s.take (.status d)).1 = none) ∧
    (∀ d, codes.classify d.code = .cycleDone →
      (s.take (.status d)).1 =
        some ⟨Trace.gathered codes trace ++ [d], (Trace.gathered codes trace).length + 1⟩ ∧
      (s.take (.status d)).2.buffer = Trace.gathered codes trace ++ [d]) ∧
    (∀ d, codes.classify d.code = .other → s.take (.status d) = (none, s)) ∧
    ∀ d, s.take (.diagnostic d) = (none, { s with buffer := s.buffer ++ [d] }) := by
  intro start s
  obtain ⟨⟨hcodes, hbuffer, hphase, hcalls⟩, hanswers⟩ := follows_after codes display trace
  change s.codes = codes at hcodes
  change s.buffer = _ at hbuffer
  change s.calls = _ at hcalls
  change start.answers trace = _ at hanswers
  refine ⟨hbuffer, hphase, hanswers, hcalls, ?_, ?_, ?_, ?_, ?_, ?_, fun d => rfl⟩
  · rw [hcalls, Trace.count_start_hookCalls]
  · rw [hcalls, hanswers, Trace.reports_hookCalls]
  · rw [hanswers, Trace.length_reports]
  · intro d hd
    simp [Session.take, Session.receiveStatus, hcodes, hd]
  · intro d hd
    simp [Session.take, Session.receiveStatus, hcodes, hd, hbuffer]
  · intro d hd
    simp [Session.take, Session.receiveStatus, hcodes, hd]

/-- An end that follows an end is answered with all that came since the start. A diagnostic with
the code of a start does not count as one. -/
theorem session_follows_trace_repeatedEnd :
    let codes : StatusCodes := ⟨1, 2, 3⟩
    let stray := Diagnostic.error 1 "stray"
    let ended := Diagnostic.status 3 "done"
    let s := (Session.fresh codes (.ofStyle ⟨false, none⟩)).after
      [.diagnostic stray, .status (.status 2 "go"), .diagnostic stray, .status ended]
    codes.classify ended.code = .cycleDone ∧
    (s.take (.status ended)).1 = some ⟨[stray, ended, ended], 3⟩ := by
  intro codes stray ended s
  have hended : codes.classify ended.code = .cycleDone := by decide
  have hgathered : Trace.gathered codes
      [.diagnostic stray, .status (.status 2 "go"), .diagnostic stray, .status ended] =
        [stray, ended] := by decide
  obtain ⟨-, -, -, -, -, -, -, -, hends, -⟩ := session_follows_trace codes (.ofStyle ⟨false, none⟩)
    [.diagnostic stray, .status (.status 2 "go"), .diagnostic stray, .status ended]
  obtain ⟨hanswer, -⟩ := hends ended hended
  rw [hgathered] at hanswer
  exact ⟨hended, hanswer⟩

end QuietEmit.Watch
