/-!
# Return codes and exceptions

libuv reports failures as negative numbers on this platform. The library turns
them into exceptions, and throws others of its own.
-/

namespace MoeUV

def UV_EAGAIN : Int := -11
def UV_ENOMEM : Int := -12
def UV_EBUSY : Int := -16
def UV_EINVAL : Int := -22
def UV_ECANCELED : Int := -125

/-- The exceptions that the members of the handle classes throw. -/
inductive Failure where
  | invalidCall (description : String)
  | badArgument (description : String)
  | operationCancelled
  | api (status : Int)
deriving DecidableEq

/-- What a user callback throws, or the call of an empty one: the three kinds that
`MOE_UV_CATCH_ALL_END` tells apart. -/
inductive ThrownException where
  | exceptionBase (description : String)
  | stdException (what : String)
  | badFunctionCall
  | unknown
deriving DecidableEq

/-- `MOE_UV_THROW`. -/
def uvThrow (status : Int) : Failure :=
  if status = UV_ECANCELED then .operationCancelled else .api status

/-- How a call ended. -/
inductive Outcome where
  | returned
  | threw (failure : Failure)
deriving DecidableEq

end MoeUV
