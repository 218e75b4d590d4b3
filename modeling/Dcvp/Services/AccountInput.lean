import Dcvp.Services.AuthService
import Dcvp.Statements

/-!
# `Dcvp.Services.AccountInput`: what the account services share

The four account services run over the same database and the same environment. This module
has the input of their moves, and the few expressions that all of them use.
-/

set_option autoImplicit false

namespace Dcvp.Services

open Dcvp.Lib

/-- The input of one move: the clock, the answers of `crypto.randomUUID()` in the order of
the calls, the salt of a new password hash, whether the derivation of a key is refused, and
the error with which the awaited statement fails. -/
structure AccountInput where
  dateNow : Int := 0
  uuid : String := ""
  secondUuid : String := ""
  thirdUuid : String := ""
  salt : String := ""
  createBusy : Bool := false
  fault : Option PrismaError := none
  deriving DecidableEq

/-- `crypto.randomUUID().slice(0, 12)` behind a prefix, the shape of all identifiers of the account
services. -/
def shortId (idPrefix uuid : String) : String :=
  idPrefix ++ String.ofList (uuid.toList.take 12)

/-- `createJoinCode` of the setup. The approval of a sign-up request writes the same expression. -/
def createJoinCode (ctx : AuthContext) (uuid : String) : String :=
  "ORG-" ++ ctx.text.toUpperCase (String.ofList ((uuid.toList.filter (· ≠ '-')).take 8))

/-- The `data` of `organization.create`, with the columns of the setup and of an approval. -/
def createdOrganization (ctx : AuthContext) (input : AccountInput) (name : String) :
    OrganizationRow where
  id := shortId "org_" input.uuid
  name := name
  joinCode := createJoinCode ctx input.secondUuid
  createdAt := input.dateNow

/-- The text that an operator gave for a rejection, or the default text. -/
def rejectionText (given : Option String) (default : String) : String :=
  (Js.truthy (given.map Js.trim)).getD default

/-- `{ kind: "APPROVE" }` or `{ kind: "REJECT", rejectionReason }`. -/
inductive ReviewAction where
  | approve
  | reject (rejectionReason : String)
  deriving DecidableEq

/-- The status that a review leaves in the reviewed row. -/
def ReviewAction.status : ReviewAction → ReviewStatus
  | .approve => .approved
  | .reject _ => .rejected

/-- The `rejectionReason` that a review leaves, which an approval clears. -/
def ReviewAction.rejectionReason : ReviewAction → Option String
  | .approve => none
  | .reject rejectionReason => some rejectionReason

/-- The body of a review. The action is any text, because it comes from a request. -/
structure ReviewInput where
  action : String
  rejectionReason : Option String := none
  deriving DecidableEq

/-- `parseReviewInput` and `parseReviewAction`, which differ in their texts. -/
def parseReview (defaultReason refusal : String) (input : ReviewInput) :
    Except ServiceException ReviewAction :=
  if input.action = "APPROVE" then .ok .approve
  else if input.action = "REJECT" then
    .ok (.reject (rejectionText input.rejectionReason defaultReason))
  else .error (.http .badRequest refusal)

/-- A segment of a call that ends with an `await` or an exception. -/
def awaitOrThrow {π ω : Type} :
    Except ServiceException π → Outcome π (Except ServiceException ω)
  | .error error => .finished (.error error)
  | .ok pc => .suspended pc

/-- A segment with which a call ends. -/
def conclude {π ω : Type} (result : Except ServiceException ω) :
    Outcome π (Except ServiceException ω) := .finished result

/-- Where an `awaitOrThrow` waits. -/
theorem awaitOrThrow_eq_suspended {π ω : Type} {x : Except ServiceException π} {pc : π} :
    (awaitOrThrow x : Outcome π (Except ServiceException ω)) = .suspended pc ↔ x = .ok pc := by
  cases x <;> simp [awaitOrThrow]

end Dcvp.Services
