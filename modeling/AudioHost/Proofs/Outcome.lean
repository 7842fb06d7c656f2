import AudioHost.Journal

/-!
# Laws of outcomes

Results, states and journals of composed operations.
-/

set_option autoImplicit false

namespace AudioHost.Outcome

variable {State Result Next : Type}

@[simp] theorem result_quiet (result : Result) (state : State) :
    (quiet result state).result = result := rfl

@[simp] theorem journal_quiet (result : Result) (state : State) :
    (quiet result state).journal = [] := rfl

@[simp] theorem result_map (change : Result → Next) (outcome : Outcome State Result) :
    (outcome.map change).result = change outcome.result := rfl

@[simp] theorem journal_map (change : Result → Next) (outcome : Outcome State Result) :
    (outcome.map change).journal = outcome.journal := rfl

@[simp] theorem state_andThen (first : Outcome State Result)
    (next : Result → State → Outcome State Next) :
    (first.andThen next).state = (next first.result first.state).state := rfl

@[simp] theorem result_andThen (first : Outcome State Result)
    (next : Result → State → Outcome State Next) :
    (first.andThen next).result = (next first.result first.state).result := rfl

@[simp] theorem journal_andThen (first : Outcome State Result)
    (next : Result → State → Outcome State Next) :
    (first.andThen next).journal =
      first.journal ++ (next first.result first.state).journal := rfl

/-- A first operation that does nothing leaves the second one as it is. -/
@[simp] theorem quiet_andThen (result : Result) (state : State)
    (next : Result → State → Outcome State Next) :
    (quiet result state).andThen next = next result state := rfl

end AudioHost.Outcome
