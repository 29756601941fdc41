import Mathlib.Logic.Function.Basic

/-!
# Asynchronous calls as interaction programs

An asynchronous function is a tree of requests to its environment.  Whoever
runs it chooses each answer, so that the suspended function is the remaining
tree.  A specification follows such a run through a view: a summary of the
requests and answers so far.  It says which requests the view allows, and what
holds of the view when the function returns.
-/

namespace Coactor.Foundation

/-- A suspended function: finished, or waiting for the answer to one request. -/
inductive Program (Call : Type) (Answer : Call → Type) (Result : Type) where
  | ret (result : Result)
  | call (request : Call) (resume : Answer request → Program Call Answer Result)

namespace Program

variable {Call : Type} {Answer : Call → Type} {Result View : Type}

/-- Requests a view allows, and what it must show when a result is returned. -/
structure Contract (Call : Type) (Answer : Call → Type) (Result View : Type) where
  observe : View → (request : Call) → Answer request → View
  allowed : View → Call → Prop
  ensures : View → Result → Prop

/-- Every request on every path is allowed, and every result is ensured. -/
def Satisfies (contract : Contract Call Answer Result View) :
    View → Program Call Answer Result → Prop
  | view, .ret result => contract.ensures view result
  | view, .call request resume =>
      contract.allowed view request ∧
        ∀ answer, Satisfies contract (contract.observe view request answer) (resume answer)

variable {contract : Contract Call Answer Result View} {view : View}

@[simp]
theorem satisfies_ret {result : Result} :
    Satisfies contract view (.ret result) ↔ contract.ensures view result := Iff.rfl

/-- A satisfying program still satisfies its contract after any answer. -/
theorem Satisfies.resume {request : Call}
    {resume : Answer request → Program Call Answer Result}
    (satisfies : Satisfies contract view (.call request resume)) (answer : Answer request) :
    Satisfies contract (contract.observe view request answer) (resume answer) :=
  satisfies.2 answer

/-! ## Execution -/

/-- Run a program to its end against an environment with a state of its own. -/
def execute {State : Type} (environment : State → (request : Call) → Answer request × State) :
    State → Program Call Answer Result → Result × State
  | state, .ret result => (result, state)
  | state, .call request resume =>
      execute environment (environment state request).2 (resume (environment state request).1)

/-! ## Traces -/

/-- The requests of one run with their answers, newest first. -/
abbrev Exchanges (Call : Type) (Answer : Call → Type) := List ((request : Call) × Answer request)

/-- What is left of a program after some exchanges with its environment. -/
inductive Reaches (program : Program Call Answer Result) :
    Exchanges Call Answer → Program Call Answer Result → Prop where
  | start : Reaches program [] program
  | answered {trace : Exchanges Call Answer} {request : Call}
      {resume : Answer request → Program Call Answer Result}
      (earlier : Reaches program trace (.call request resume)) (answer : Answer request) :
      Reaches program (⟨request, answer⟩ :: trace) (resume answer)

/-- A contract on whole traces: the view is the trace itself. -/
def traceContract (allowed : Exchanges Call Answer → Call → Prop)
    (ensures : Exchanges Call Answer → Result → Prop) :
    Contract Call Answer Result (Exchanges Call Answer) where
  observe := fun trace request answer => ⟨request, answer⟩ :: trace
  allowed := allowed
  ensures := ensures

/-- A program that satisfies a contract on traces satisfies it wherever it gets to. -/
theorem Satisfies.reaches {allowed : Exchanges Call Answer → Call → Prop}
    {ensures : Exchanges Call Answer → Result → Prop}
    {program next : Program Call Answer Result} {trace : Exchanges Call Answer}
    (satisfies : Satisfies (traceContract allowed ensures) [] program)
    (reached : Reaches program trace next) :
    Satisfies (traceContract allowed ensures) trace next := by
  induction reached with
  | start => exact satisfies
  | answered _ answer ih => exact ih.resume answer

/-! ## Termination -/

/-- The first program is what an answer leaves of the second one. -/
def Follows (next program : Program Call Answer Result) : Prop :=
  ∃ request resume answer, program = .call request resume ∧ next = resume answer

/-- Whatever the answers, a program comes to its end. -/
theorem follows_wellFounded :
    WellFounded (Follows : Program Call Answer Result → Program Call Answer Result → Prop) := by
  constructor
  intro program
  induction program with
  | ret result =>
      constructor
      rintro next ⟨request, resume, answer, ended, -⟩
      cases ended
  | call request resume ih =>
      constructor
      rintro next ⟨request', resume', answer, same, rfl⟩
      cases same
      exact ih answer

end Program

end Coactor.Foundation
