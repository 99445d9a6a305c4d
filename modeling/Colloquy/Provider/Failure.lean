/-!
# Failures of provider calls

A call of a provider that fails says why with a `FailureKind` and a message.  The kind alone decides
whether another try can help: too many requests, a failing server and a failing network pass, all
other kinds stay (`FailureKind.isTransient`).
-/

namespace Colloquy.Provider

/-- Why a call failed. -/
inductive FailureKind where
  | rateLimit
  | serverError
  | networkError
  | authentication
  | invalidRequest
  | modelNotFound
  | parse
  | other
deriving DecidableEq, Repr

namespace FailureKind

/-- All kinds. -/
def all : List FailureKind :=
  [rateLimit, serverError, networkError, authentication, invalidRequest, modelNotFound, parse,
    other]

/-- The kind in words; retries are counted under it. -/
def reason : FailureKind → String
  | rateLimit => "rate limiting"
  | serverError => "server error"
  | networkError => "network error"
  | authentication => "authentication"
  | invalidRequest => "invalid request"
  | modelNotFound => "model not found"
  | parse => "parse error"
  | other => "other"

/-- Whether the failure can pass by itself. -/
def isTransient : FailureKind → Bool
  | rateLimit | serverError | networkError => true
  | _ => false

/-- The kind that a status code of the hypertext protocol stands for. -/
def ofStatus (status : Nat) : FailureKind :=
  if status = 429 then rateLimit
  else if 500 ≤ status && status ≤ 599 then serverError
  else if status = 401 || status = 403 then authentication
  else if status = 404 then modelNotFound
  else if 400 ≤ status && status ≤ 499 then invalidRequest
  else other

theorem mem_all (k : FailureKind) : k ∈ all := by
  cases k <;> decide

end FailureKind

/-- A failed call. -/
structure Failure where
  kind : FailureKind
  message : String
deriving DecidableEq, Repr

/-- A call that was given up: its last failure, and how often it was tried again. -/
structure GivenUp where
  failure : Failure
  retries : Nat
deriving DecidableEq, Repr

/-- The sentence that reports a call that was given up; it tells the number of retries if there
were any. -/
def GivenUp.message (g : GivenUp) : String :=
  if 0 < g.retries then s!"{g.failure.message} (Retried {g.retries} times)"
  else g.failure.message

end Colloquy.Provider
