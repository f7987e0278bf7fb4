import Mathlib.Control.Monad.Basic
import Mathlib.Data.List.Basic
import Mathlib.Logic.Relation

/-!
# Runs of a partial step

A run feeds a list of inputs to a step that may be undefined, and stops at the first undefined
step.  An invariant that every step keeps holds after the whole run, and a step that is defined on
all states satisfying the invariant gives runs that are defined.  What runs reach is what single
steps reach.  Steps that also return a value are run by `mapM`, which collects the values.
-/

namespace Run

variable {State Input : Type*} {step : State → Input → Option State}

/-- The invariant rule for runs that end. -/
theorem invariant_of_eq_some (Invariant : State → Prop)
    (hstep : ∀ state input next, Invariant state → step state input = some next → Invariant next)
    {inputs : List Input} {state final : State} (hstate : Invariant state)
    (hrun : inputs.foldlM step state = some final) : Invariant final := by
  induction inputs generalizing state with
  | nil =>
    cases hrun
    exact hstate
  | cons input inputs ih =>
    obtain ⟨next, hnext, hrest⟩ := Option.bind_eq_some_iff.mp hrun
    exact ih (hstep state input next hstate hnext) hrest

/-- The progress rule: when every step is defined under the invariant, so is every run. -/
theorem exists_eq_some (Invariant : State → Prop)
    (hstep : ∀ state input, Invariant state →
      ∃ next, step state input = some next ∧ Invariant next)
    (inputs : List Input) {state : State} (hstate : Invariant state) :
    ∃ final, inputs.foldlM step state = some final ∧ Invariant final := by
  induction inputs generalizing state with
  | nil => exact ⟨state, rfl, hstate⟩
  | cons input inputs ih =>
    obtain ⟨next, hnext, hinvariant⟩ := hstep state input hstate
    obtain ⟨final, hfinal, hresult⟩ := ih hinvariant
    exact ⟨final, Option.bind_eq_some_iff.mpr ⟨next, hnext, hfinal⟩, hresult⟩

/-- A nonempty run that ends made a last step, from a state that satisfies the invariant. -/
theorem exists_last_step (Invariant : State → Prop)
    (hstep : ∀ state input next, Invariant state → step state input = some next → Invariant next)
    {inputs : List Input} {state final : State} (hinputs : inputs ≠ []) (hstate : Invariant state)
    (hrun : inputs.foldlM step state = some final) :
    ∃ previous input, Invariant previous ∧ step previous input = some final := by
  obtain ⟨earlier, last, rfl⟩ := (List.eq_nil_or_concat' inputs).resolve_left hinputs
  rw [List.foldlM_append] at hrun
  obtain ⟨previous, hprevious, hlast⟩ := Option.bind_eq_some_iff.mp hrun
  refine ⟨previous, last, invariant_of_eq_some Invariant hstep hstate hprevious, ?_⟩
  rw [List.foldlM_cons] at hlast
  simpa using hlast

/-- The states that single steps reach are the ones that runs reach. -/
theorem reflTransGen_iff {state final : State} :
    Relation.ReflTransGen (fun state next ↦ ∃ input, step state input = some next) state final ↔
      ∃ inputs : List Input, inputs.foldlM step state = some final := by
  constructor
  · intro h
    induction h with
    | refl => exact ⟨[], rfl⟩
    | tail _ hlast ih =>
      obtain ⟨inputs, hrun⟩ := ih
      obtain ⟨input, hstep⟩ := hlast
      refine ⟨inputs ++ [input], ?_⟩
      rw [List.foldlM_append, hrun]
      simpa using hstep
  · intro ⟨inputs, hrun⟩
    apply invariant_of_eq_some (Relation.ReflTransGen _ state) _ Relation.ReflTransGen.refl hrun
    intro state input next hreached hstep
    exact hreached.tail ⟨input, hstep⟩

/-- The simulation rule: a map that commutes with every step commutes with runs. -/
theorem map_foldlM {State' : Type*} {step' : State' → Input → Option State'}
    (project : State → State')
    (hstep : ∀ state input, (step state input).map project = step' (project state) input)
    (inputs : List Input) (state : State) :
    (inputs.foldlM step state).map project = inputs.foldlM step' (project state) := by
  induction inputs generalizing state with
  | nil => rfl
  | cons input inputs ih =>
    rw [List.foldlM_cons, List.foldlM_cons, ← hstep]
    cases step state input with
    | none => rfl
    | some next => exact ih next

end Run

namespace Run

variable {State Log Input : Type} {step : State → Input → StateT Log Option State}

/-- A step that also writes a log is a partial step on pairs. -/
theorem run_foldlM (inputs : List Input) (state : State) (log : Log) :
    (inputs.foldlM step state).run log =
      inputs.foldlM (fun pair input ↦ (step pair.1 input).run pair.2) (state, log) := by
  induction inputs generalizing state log with
  | nil => rfl
  | cons input inputs ih =>
    rw [List.foldlM_cons, List.foldlM_cons, StateT.run_bind]
    exact congrArg _ (funext fun pair ↦ ih pair.1 pair.2)

end Run

/-! ## Steps that return a value -/

namespace Run

variable {State Input Output Result : Type}

/-- What ends after a first part, ended from the state that the part left. -/
theorem exists_of_run_bind_eq_some {first : StateT State Option Output}
    {rest : Output → StateT State Option Result} {state final : State} {result : Result}
    (h : (first >>= rest).run state = some (result, final)) :
    ∃ value middle, first.run state = some (value, middle) ∧
      (rest value).run middle = some (result, final) := by
  rw [StateT.run_bind] at h
  obtain ⟨⟨value, middle⟩, hfirst, hrest⟩ := Option.bind_eq_some_iff.mp h
  exact ⟨value, middle, hfirst, hrest⟩

theorem run_bind_of_eq_some {first : StateT State Option Output}
    {rest : Output → StateT State Option Result} {state middle : State} {value : Output}
    (h : first.run state = some (value, middle)) :
    (first >>= rest).run state = (rest value).run middle := by
  rw [StateT.run_bind, h]
  rfl

theorem eq_of_run_lift_eq_some {call : Option Output} {state final : State} {value : Output}
    (h : (StateT.lift call : StateT State Option Output).run state = some (value, final)) :
    call = some value ∧ state = final := by
  rw [StateT.run_lift] at h
  obtain ⟨returned, hreturned, h⟩ := Option.bind_eq_some_iff.mp h
  cases h
  exact ⟨hreturned, rfl⟩

/-- A run returns one value for each input, and what every step returns. -/
theorem values_of_mapM {step : Input → StateT State Option Output} (Returned : Output → Prop)
    (hstep : ∀ input state value next,
      (step input).run state = some (value, next) → Returned value)
    {inputs : List Input} {state final : State} {values : List Output}
    (hrun : (inputs.mapM step).run state = some (values, final)) :
    values.length = inputs.length ∧ ∀ value ∈ values, Returned value := by
  induction inputs generalizing state values with
  | nil =>
    cases hrun
    exact ⟨rfl, fun _ hmem ↦ absurd hmem List.not_mem_nil⟩
  | cons input inputs ih =>
    rw [List.mapM_cons] at hrun
    obtain ⟨first, middle, hfirst, hrun⟩ := exists_of_run_bind_eq_some hrun
    obtain ⟨later, last, hlater, hrun⟩ := exists_of_run_bind_eq_some hrun
    cases hrun
    obtain ⟨hlength, hreturned⟩ := ih hlater
    refine ⟨congrArg (· + 1) hlength, ?_⟩
    intro value hvalue
    rcases List.mem_cons.mp hvalue with rfl | hvalue
    · exact hstep input state value middle hfirst
    · exact hreturned value hvalue

/-- When every step takes one accepted token from the stream, a run takes exactly its tokens. -/
theorem exists_mapM_of_tokens {Token : Type} {step : Input → StateT (List Token) Option Output}
    (Accepted : Token → Prop)
    (hstep : ∀ input token rest, Accepted token →
      ∃ value, (step input).run (token :: rest) = some (value, rest))
    {inputs : List Input} {tokens : List Token} (hlength : tokens.length = inputs.length)
    (htokens : ∀ token ∈ tokens, Accepted token) (rest : List Token) :
    ∃ values, (inputs.mapM step).run (tokens ++ rest) = some (values, rest) := by
  induction inputs generalizing tokens with
  | nil =>
    rw [List.length_nil, List.length_eq_zero_iff] at hlength
    rw [hlength]
    exact ⟨[], rfl⟩
  | cons input inputs ih =>
    obtain ⟨token, tokens, rfl⟩ := List.exists_cons_of_length_eq_add_one hlength
    have hfirst := htokens token (List.mem_cons_self ..)
    have hlater : ∀ other ∈ tokens, Accepted other :=
      fun other hother ↦ htokens other (List.mem_cons_of_mem token hother)
    obtain ⟨value, hvalue⟩ := hstep input token (tokens ++ rest) hfirst
    obtain ⟨values, hvalues⟩ := ih (Nat.succ.inj hlength) hlater
    refine ⟨value :: values, ?_⟩
    rw [List.mapM_cons, List.cons_append, run_bind_of_eq_some hvalue, run_bind_of_eq_some hvalues]
    rfl

end Run

/-! ## Steps that may also throw -/

namespace Run

variable {Error α β : Type}

/-- What returns after a first part, returned from that part. -/
theorem exists_of_run_bind_eq_ok {first : ExceptT Error Option α}
    {rest : α → ExceptT Error Option β} {result : β}
    (h : (first >>= rest).run = some (.ok result)) :
    ∃ value, first.run = some (.ok value) ∧ (rest value).run = some (.ok result) := by
  rw [ExceptT.run_bind] at h
  obtain ⟨outcome, houtcome, h⟩ := Option.bind_eq_some_iff.mp h
  cases outcome with
  | ok value => exact ⟨value, houtcome, h⟩
  | error _ => cases h

theorem eq_some_of_run_lift_eq_ok {call : Option α} {result : α}
    (h : (ExceptT.lift call : ExceptT Error Option α).run = some (.ok result)) :
    call = some result := by
  rw [ExceptT.run_lift] at h
  obtain ⟨value, hvalue, h⟩ := Option.map_eq_some_iff.mp h
  cases h
  exact hvalue

/-- A first part that returned is over. -/
theorem run_bind_of_eq_ok {first : ExceptT Error Option α} {rest : α → ExceptT Error Option β}
    {value : α} (h : first.run = some (.ok value)) : (first >>= rest).run = (rest value).run := by
  rw [ExceptT.run_bind, h]
  rfl

theorem run_lift_of_eq_some {call : Option α} {value : α} (h : call = some value) :
    (ExceptT.lift call : ExceptT Error Option α).run = some (.ok value) := by
  rw [ExceptT.run_lift, h]
  rfl

theorem run_mk_of_eq_ok {outcome : Except Error α} {value : α} (h : outcome = .ok value) :
    (ExceptT.mk (some outcome) : ExceptT Error Option α).run = some (.ok value) := by
  rw [ExceptT.run_mk, h]

end Run
