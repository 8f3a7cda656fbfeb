import NftProbe.Run.ChainCheck

/-!
# What a step records

The steps of a run record outcomes and fill in the context; only the orchestrator changes the
phase, and only the deploy step sets the deployment. `Context.Moves before after entered
recorded` is that frame: the run entered the phases `entered`, the history grew by them, the
deployment stayed, and the outcomes grew by `recorded`. It is reflexive and composes; every
context update a step makes (a record, a snapshot, a token, an owner, the baseline) moves
through no phase, a phase change through one, and an abort through the aborted phase.

An outcome's name, success and error kind are fixed when it is made: adding details, and
merging a check's details into a failure, leave them alone. Three views of a list of recorded
outcomes recur in the workflows: none of them is fatal (`Harmless`), the steps of a list recorded
outcomes in that order (`Ran`), and the last one is the failure of a given step
(`EndsWithFailure`).
-/

set_option autoImplicit false

namespace NftProbe.Run

namespace StepOutcome

@[simp] theorem detail_step (o : StepOutcome) (key : String) (value : Json) :
    (o.detail key value).step = o.step := rfl

@[simp] theorem detail_success (o : StepOutcome) (key : String) (value : Json) :
    (o.detail key value).success = o.success := rfl

@[simp] theorem detail_error (o : StepOutcome) (key : String) (value : Json) :
    (o.detail key value).error = o.error := rfl

@[simp] theorem passed_step (name : String) : (passed name).step = name := rfl

@[simp] theorem passed_success (name : String) : (passed name).success = true := rfl

@[simp] theorem passed_error (name : String) : (passed name).error = none := rfl

@[simp] theorem skipped_step (name reason : String) : (skipped name reason).step = name := rfl

@[simp] theorem skipped_error (name reason : String) : (skipped name reason).error = none := rfl

@[simp] theorem failed_step (name : String) (e : HarnessError) : (failed name e).step = name := by
  cases e <;> rfl

@[simp] theorem failed_success (name : String) (e : HarnessError) :
    (failed name e).success = false := by
  cases e <;> rfl

@[simp] theorem failed_error (name : String) (e : HarnessError) :
    (failed name e).error = some e.kind := by
  cases e <;> rfl

/-- Folding details into an outcome changes only its details. -/
private theorem foldl_detail_fields (details : Table String Json) (o : StepOutcome) :
    let merged := details.foldl
      (fun failed (key, value) =>
        if failed.details.contains key then failed else failed.detail key value) o
    merged.step = o.step ∧ merged.success = o.success ∧ merged.error = o.error := by
  induction details generalizing o with
  | nil => exact ⟨rfl, rfl, rfl⟩
  | cons entry rest ih =>
    obtain ⟨key, value⟩ := entry
    simp only [List.foldl_cons]
    split
    · exact ih o
    · obtain ⟨hstep, hsuccess, herror⟩ := ih (o.detail key value)
      exact ⟨hstep, hsuccess, herror⟩

@[simp] theorem mergeDetails_step (failed outcome : StepOutcome) :
    (mergeDetails failed outcome).step = failed.step :=
  (foldl_detail_fields outcome.details failed).1

@[simp] theorem mergeDetails_success (failed outcome : StepOutcome) :
    (mergeDetails failed outcome).success = failed.success :=
  (foldl_detail_fields outcome.details failed).2.1

@[simp] theorem mergeDetails_error (failed outcome : StepOutcome) :
    (mergeDetails failed outcome).error = failed.error :=
  (foldl_detail_fields outcome.details failed).2.2

@[simp] theorem detail_severity (o : StepOutcome) (key : String) (value : Json) :
    (o.detail key value).severity = o.severity := rfl

@[simp] theorem passed_severity (name : String) : (passed name).severity = none := rfl

@[simp] theorem skipped_severity (name reason : String) : (skipped name reason).severity = none :=
  rfl

@[simp] theorem failed_severity (name : String) (e : HarnessError) :
    (failed name e).severity = some e.kind.severity := by
  simp [severity]

/-- The failed outcome of an error that is not fatal is not fatal either. -/
theorem failed_harmless (name : String) {e : HarnessError} (h : e.isFatal = false) :
    (failed name e).severity ≠ some .fatal := by
  simpa [HarnessError.isFatal, ErrorKind.isFatal] using h

/-- An outcome that carries no error kind has no severity. -/
@[simp] theorem severity_of_error_none {o : StepOutcome} (h : o.error = none) :
    o.severity = none := by
  simp [severity, h]

end StepOutcome

namespace Context

/-- From `before` to `after` the run entered the phases `entered`, in order, and recorded
`recorded` after its outcomes; the deployment stayed as it was. -/
structure Moves (before after : Context) (entered : List Phase) (recorded : List StepOutcome) :
    Prop where
  phase : after.phase = (entered.getLast?).getD before.phase
  history : after.history = before.history ++ entered
  deployment : after.deployment = before.deployment
  outcomes : after.outcomes = before.outcomes ++ recorded

namespace Moves

variable {c d e : Context} {entered entered' : List Phase} {recorded more : List StepOutcome}

theorem refl (c : Context) : c.Moves c [] [] :=
  ⟨rfl, (List.append_nil _).symm, rfl, (List.append_nil _).symm⟩

theorem trans (h : c.Moves d entered recorded) (h' : d.Moves e entered' more) :
    c.Moves e (entered ++ entered') (recorded ++ more) where
  phase := by
    rw [h'.phase, h.phase, List.getLast?_append]
    cases entered'.getLast? <;> rfl
  history := by rw [h'.history, h.history, List.append_assoc]
  deployment := h'.deployment.trans h.deployment
  outcomes := by rw [h'.outcomes, h.outcomes, List.append_assoc]

/-- With no phase entered, the phase is the one the run was in. -/
theorem phase_eq (h : c.Moves d [] recorded) : d.phase = c.phase := h.phase

/-- The frame holds whatever deployment both ends are given. -/
theorem withDeployment (h : c.Moves d entered recorded) (deployment : Option DeploymentResult) :
    ({ c with deployment }).Moves { d with deployment } entered recorded :=
  ⟨h.phase, h.history, rfl, h.outcomes⟩

end Moves

theorem moves_record (c : Context) (o : StepOutcome) : c.Moves (c.record o) [] [o] :=
  ⟨rfl, (List.append_nil _).symm, rfl, rfl⟩

theorem moves_addSnapshot (c : Context) (label : String) (snapshot : BlockSnapshot) :
    c.Moves (c.addSnapshot label snapshot) [] [] :=
  ⟨rfl, (List.append_nil _).symm, rfl, (List.append_nil _).symm⟩

theorem moves_setTokens (c : Context) (tokens : Table Nat TokenRecord) :
    c.Moves { c with tokens } [] [] :=
  ⟨rfl, (List.append_nil _).symm, rfl, (List.append_nil _).symm⟩

theorem moves_addToken (c : Context) (token : TokenRecord) : c.Moves (c.addToken token) [] [] :=
  moves_setTokens c _

theorem moves_setOwner (c : Context) (tokenId : Nat) (owner : Address) :
    c.Moves (c.setOwner tokenId owner) [] [] :=
  ⟨rfl, (List.append_nil _).symm, rfl, (List.append_nil _).symm⟩

theorem moves_setBaselineSupply (c : Context) (supply : Nat) :
    c.Moves (c.setBaselineSupply supply) [] [] :=
  ⟨rfl, (List.append_nil _).symm, rfl, (List.append_nil _).symm⟩

/-- A phase change the table allows enters exactly that phase. -/
theorem moves_transition {c d : Context} {next : Phase} (h : c.transition next = .ok d) :
    c.Moves d [next] [] := by
  unfold transition at h
  split at h
  · cases h
    exact ⟨rfl, rfl, rfl, (List.append_nil _).symm⟩
  · cases h

/-- A phase change keeps the tokens. -/
theorem transition_tokens {c d : Context} {next : Phase} (h : c.transition next = .ok d) :
    d.tokens = c.tokens := by
  unfold transition at h
  split at h
  · cases h
    rfl
  · cases h

/-- Aborting a run that has not ended enters the aborted phase. -/
theorem moves_abort {c : Context} (h : c.phase.isTerminal = false) :
    c.Moves c.abort [.aborted] [] := by
  simp only [abort, h]
  exact ⟨rfl, rfl, rfl, (List.append_nil _).symm⟩

end Context

/-- What a step the run tolerates leaves: it entered no phase, recorded `recorded`, none of which
is fatal, and raised no fatal error. -/
structure Tolerated {α : Type} (before after : Context) (recorded : List StepOutcome)
    (r : Except HarnessError α) : Prop where
  moves : before.Moves after [] recorded
  harmless : ∀ o ∈ recorded, o.severity ≠ some .fatal
  notFatal : ∀ e, r = .error e → e.isFatal = false

/-- No outcome of `recorded` is fatal. -/
def Harmless (recorded : List StepOutcome) : Prop :=
  ∀ o ∈ recorded, o.severity ≠ some .fatal

theorem Harmless.append {recorded more : List StepOutcome} (h : Harmless recorded)
    (h' : Harmless more) : Harmless (recorded ++ more) := by
  intro o ho
  rcases List.mem_append.mp ho with ho | ho
  · exact h o ho
  · exact h' o ho

/-- The steps `names` recorded outcomes among `recorded`, in this order. -/
def Ran (names : List String) (recorded : List StepOutcome) : Prop :=
  names.Sublist (recorded.map (·.step))

theorem ran_singleton {name : String} {recorded : List StepOutcome} :
    Ran [name] recorded ↔ name ∈ recorded.map (·.step) :=
  List.singleton_sublist

theorem Ran.append {names names' : List String} {recorded more : List StepOutcome}
    (h : Ran names recorded) (h' : Ran names' more) : Ran (names ++ names') (recorded ++ more) := by
  unfold Ran
  rw [List.map_append]
  exact List.Sublist.append h h'

theorem Ran.extend {names : List String} {recorded : List StepOutcome} (h : Ran names recorded)
    (more : List StepOutcome) : Ran names (recorded ++ more) := by
  unfold Ran
  rw [List.map_append]
  exact List.Sublist.trans h (List.sublist_append_left _ _)

/-- The last outcome recorded is the failure of the step `name` with the error's kind. -/
def EndsWithFailure (name : String) (e : HarnessError) (recorded : List StepOutcome) : Prop :=
  ∃ o, recorded.getLast? = some o ∧ o.step = name ∧ o.success = false ∧ o.error = some e.kind

theorem EndsWithFailure.after {name : String} {e : HarnessError} {recorded : List StepOutcome}
    (h : EndsWithFailure name e recorded) (earlier : List StepOutcome) :
    EndsWithFailure name e (earlier ++ recorded) := by
  obtain ⟨o, hlast, hstep, hsuccess, herror⟩ := h
  refine ⟨o, ?_, hstep, hsuccess, herror⟩
  rw [List.getLast?_append, hlast]
  rfl

end NftProbe.Run
