import Sofon.Store.Postgres

/-!
# Errors

`apperror.Error`, what the repositories make of a failed query, and what a request is answered
with.
-/

namespace Sofon

/-- `apperror.Kind`. -/
inductive Kind where
  | invalidInput
  | alreadyExists
  | notFound
  | conflict
  | unauthorised
  | forbidden
  | requestTimeout
  | internal
  | dependency
  | databaseErr
  deriving DecidableEq

/-- `apperror.Error`, without the wrapped error. -/
structure AppError where
  kind : Kind
  op : String
  message : String

/-- `utils.WrapRepoError`, and the same ladder written out in the monitor
repository: a cancelled context, an error of the database, any other error. -/
def wrapRepoError (op : String) : DBError → AppError
  | .canceled => ⟨.requestTimeout, op, "request cancelled or timed out"⟩
  | .constraint => ⟨.databaseErr, op, "internal server error"⟩
  | .noRows => ⟨.internal, op, "internal server error"⟩
  | .unavailable => ⟨.internal, op, "internal server error"⟩

/-- The ladder of a query whose empty answer means that the monitor is missing. -/
def wrapGetError (op : String) : DBError → AppError
  | .noRows => ⟨.notFound, op, "Monitor not found"⟩
  | err => wrapRepoError op err

/-- `apperror.GetHTTPStatus` -/
def Kind.httpStatus : Kind → ℕ
  | invalidInput => 400
  | notFound => 404
  | conflict => 409
  | unauthorised => 401
  | forbidden => 403
  | dependency => 502
  | _ => 500

/-- What `utils.WriteError` writes. -/
structure ErrorBody where
  status : ℕ
  kind : Kind
  message : String

/-- `utils.FromAppError` -/
def AppError.body (err : AppError) : ErrorBody := ⟨err.kind.httpStatus, err.kind, err.message⟩

end Sofon
