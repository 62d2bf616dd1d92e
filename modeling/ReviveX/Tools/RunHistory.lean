import ReviveX.Lib.History
import ReviveX.Tools.CommitTheorems

/-!
# What a run adds to the history

A run adds nothing, the request for an approval, or the call of one handler with the question
that the handler asks and its success. Statements about the history look at these entries and
not at the outcomes of the run again.
-/

namespace ReviveX

open Lib (Grows Session Table)

variable {rt : Runtime} {svc : ToolExecutionService} {caller : Caller} {request : ToolRequest}
  {s s' : Store} {args : ExecuteArgs}

namespace TraceEvent

/-- The event is about an approval: nothing was run. -/
def IsApproval : TraceEvent → Prop
  | .approvalRequested .. => True
  | .approvalDecided .. => True
  | _ => False

/-- A provider was asked for something. -/
def IsAsk : TraceEvent → Prop
  | .createPaymentAsked _ => True
  | .createPaymentLinkAsked _ => True
  | _ => False

/-- A handler reported success. -/
def IsSuccess : TraceEvent → Prop
  | .handlerSucceeded .. => True
  | _ => False

end TraceEvent

theorem asks_isAsk (s : Store) (caller : Caller) (request : ToolRequest) (verdict : ToolVerdict)
    (c : RecoveryCase) : ∀ e ∈ s.asks caller request verdict c, e.IsAsk := by
  intro e he
  unfold Store.asks handlerAsks at he
  dsimp only at he
  split at he
  · split at he
    · exact absurd he List.not_mem_nil
    · rw [List.mem_singleton.mp he]
      trivial
  · rw [List.mem_singleton.mp he]
    trivial
  · exact absurd he List.not_mem_nil

theorem successEvents_isSuccess (call : HandlerCall) (handled : HandlerResult) :
    ∀ e ∈ successEvents call handled, e.IsSuccess := by
  intro e he
  unfold successEvents at he
  split at he
  · rw [List.mem_singleton.mp he]
    trivial
  · exact absurd he List.not_mem_nil

/-- The entries that a run from the store `s` can add. -/
inductive RunEvents (rt : Runtime) (svc : ToolExecutionService) (caller : Caller)
    (request : ToolRequest) (s : Store) : List TraceEvent → Prop
  | none : RunEvents rt svc caller request s []
  | requested {e : TraceEvent} (h : e.IsApproval) : RunEvents rt svc caller request s [e]
  | called {verdict : ToolVerdict} {s₁ : Store} {c : RecoveryCase} {after : List TraceEvent}
      (hentered : HandlerEntered rt svc caller request s verdict s₁ c)
      (hafter : ∀ e ∈ after, e.IsSuccess) :
      RunEvents rt svc caller request s
        (.handlerCalled (s.handlerCall caller request verdict c) ::
          (s.asks caller request verdict c ++ after))

theorem RunOutcome.events {x : Except Failure ToolExecutionResult}
    (h : RunOutcome rt svc caller request s x s') :
    ∃ events, s'.trace = s.trace ++ events ∧ RunEvents rt svc caller request s events := by
  have hsame : s'.trace = s.trace → ∃ events, s'.trace = s.trace ++ events ∧
      RunEvents rt svc caller request s events :=
    fun htrace => ⟨[], by rw [htrace, List.append_nil], .none⟩
  cases h with
  | refused hrefusal happrovals hkept => exact hsame hkept.trace
  | blocked hjudged hbranch hstatus hkept => exact hsame hkept.trace
  | parked hjudged hbranch hstatus hkept => exact ⟨_, hkept.trace, .requested trivial⟩
  | handled hentered hran hstatus hkept =>
    exact ⟨_, hkept.trace.trans (hentered.reached.reported hran).trace,
      .called hentered (successEvents_isSuccess _ _)⟩
  | crashed hentered hran hrollsBack =>
    refine ⟨_, hentered.reached.asked hran, ?_⟩
    rw [← List.append_nil (s.asks _ _ _ _)]
    exact .called hentered fun _ he => absurd he List.not_mem_nil

/-- The entries that a call of `execute` can add. -/
inductive ExecuteEvents (rt : Runtime) (svc : ToolExecutionService) (caller : Caller)
    (args : ExecuteArgs) (s : Store) : List TraceEvent → Prop
  | none : ExecuteEvents rt svc caller args s []
  | ran {request : ToolRequest} {row : IdempotencyKey} {events : List TraceEvent}
      (hadmits : admitRequest rt s args = .ok request) (hholds : HoldsKey s request caller.now row)
      (h : RunEvents rt svc caller request (s.keyTaken request caller.now) events) :
      ExecuteEvents rt svc caller args s events

theorem trace_keyTaken (s : Store) (request : ToolRequest) (now : Time) :
    (s.keyTaken request now).trace = s.trace := by rw [keyTaken_eq]

theorem ExecuteOutcome.events {x : Except Failure ToolExecutionResult}
    (h : ExecuteOutcome rt svc caller args s x s') :
    ∃ events, s'.trace = s.trace ++ events ∧ ExecuteEvents rt svc caller args s events := by
  have hsame : ∃ events, s.trace = s.trace ++ events ∧ ExecuteEvents rt svc caller args s events :=
    ⟨[], (List.append_nil _).symm, .none⟩
  cases h with
  | rejected hadmits => exact hsame
  | conflict hadmits hkey hhash => exact hsame
  | replayed hadmits hkey hhash hdecision => exact hsame
  | busy hadmits hkey hhash hdecision => exact hsame
  | ran hadmits hholds hrun hfinished =>
    obtain ⟨events, htrace, hevents⟩ := hrun.events
    exact ⟨events, by rw [hfinished.trace, htrace, trace_keyTaken], .ran hadmits hholds hevents⟩

end ReviveX
