import Courier.Metadata.Choice

/-! Chains of bindings: each starts from the first request or from the result of the last that
succeeded. -/

namespace Courier.Metadata

/-- A binding to perform. -/
structure BindStep where
  choice : Except ChoiceFault Choice
  metadata : Offered
  /-- Whether it starts from the first request again. -/
  fromFirst : Bool := false

inductive BindFault where
  | choice (fault : ChoiceFault)
  | argument (fault : ArgumentFault)
  deriving Repr

/-- What a binding makes of a request. The binder is chosen before the request is looked at. -/
def BindStep.run {ε : Type} (step : BindStep) (request : Option (HttpRequest ε)) :
    Except BindFault (HttpRequest ε × Log.Entry) :=
  match step.choice with
  | .error f => .error (.choice f)
  | .ok c =>
    match c.binder.bind request step.metadata with
    | .error f => .error (.argument f)
    | .ok r => .ok r

/-- The results of bindings one after another. `first` is the request that the chain began with and
`last` that of the last binding that succeeded; one that fails leaves it as it is. -/
def runChain {ε : Type} (first last : Option (HttpRequest ε)) :
    List BindStep → List (Except BindFault (HttpRequest ε × Log.Entry))
  | [] => []
  | step :: steps =>
    let result := step.run (if step.fromFirst then first else last)
    let next := match result with
      | .ok (r, _) => some r
      | .error _ => last
    result :: runChain first next steps

end Courier.Metadata
