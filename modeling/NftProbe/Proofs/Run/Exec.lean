import NftProbe.Run.Step
import Mathlib

/-!
# Running a step

`StepM.exec` runs a step from a session and a log. It halts on an overflow, or returns the
step's result (a value or a `HarnessError`), the session it leaves and the log.

`StepM.Ensures step post s` says that every run of `step` from the session `s` that does not
halt ends with a result and a session satisfying `post`, whatever log it starts from and
whatever the client answers. A run that halts leaves nothing to observe, so `Ensures` says
nothing about it. The rules below are backward rules, one for each way a step is built (`pure`,
`throw`, `>>=`, `tryCatch`, a client call, a read or a change of the run context, a lifted log
computation), so a proof about a step follows the step's own text from left to right. The
derived rules at the end cover the helpers of `Run.Step`: recording, phase changes,
`ensureMutable`, `contract` and `tolerate`.
-/

set_option autoImplicit false

namespace NftProbe

/-- The client operation `op`, run from the client state `a`, answers `r` and leaves the client
in state `a'`, for some log. -/
def ClientM.Answers {σ α : Type} (op : ClientM σ α) (a : σ) (r : Except ClientError α) (a' : σ) :
    Prop :=
  ∃ log log', (op.runFrom a).run log = .ok ((r, a'), log')

end NftProbe

namespace NftProbe.Run.StepM

variable {σ α β : Type}

/-- Runs a step from a session and a log. -/
def exec (step : StepM σ α) (session : Session σ) (log : Array LogRecord) :
    Except Overflow ((Except HarnessError α × Session σ) × Array LogRecord) :=
  ((ExceptT.run step).run session).run log

/-! ### One equation per way a step is built -/

theorem exec_pure (a : α) (s : Session σ) (log : Array LogRecord) :
    exec (pure a) s log = .ok ((.ok a, s), log) := rfl

theorem exec_throw (e : HarnessError) (s : Session σ) (log : Array LogRecord) :
    exec (throw e : StepM σ α) s log = .ok ((.error e, s), log) := rfl

theorem exec_bind (p : StepM σ α) (f : α → StepM σ β) (s : Session σ) (log : Array LogRecord) :
    exec (p >>= f) s log =
      match exec p s log with
      | .error overflow => .error overflow
      | .ok ((.ok a, s'), log') => exec (f a) s' log'
      | .ok ((.error e, s'), log') => .ok ((.error e, s'), log') := by
  simp only [exec, ExceptT.run_bind, StateT.run_bind]
  rcases StateT.run ((ExceptT.run p).run s) log with _ | ⟨⟨_ | a, s'⟩, log'⟩ <;> rfl

theorem exec_map (p : StepM σ α) (f : α → β) (s : Session σ) (log : Array LogRecord) :
    exec (f <$> p) s log =
      match exec p s log with
      | .error overflow => .error overflow
      | .ok ((.ok a, s'), log') => .ok ((.ok (f a), s'), log')
      | .ok ((.error e, s'), log') => .ok ((.error e, s'), log') := by
  simp only [exec, ExceptT.run_map, StateT.run_map]
  rcases StateT.run ((ExceptT.run p).run s) log with _ | ⟨⟨_ | a, s'⟩, log'⟩ <;> rfl

theorem exec_tryCatch (p : StepM σ α) (h : HarnessError → StepM σ α) (s : Session σ)
    (log : Array LogRecord) :
    exec (tryCatch p h) s log =
      match exec p s log with
      | .error overflow => .error overflow
      | .ok ((.ok a, s'), log') => .ok ((.ok a, s'), log')
      | .ok ((.error e, s'), log') => exec (h e) s' log' := by
  show StateT.run ((ExceptT.run (ExceptT.tryCatch p h)).run s) log = _
  simp only [exec, ExceptT.tryCatch, ExceptT.mk, ExceptT.run, StateT.run_bind]
  rcases StateT.run (StateT.run p s) log with _ | ⟨⟨_ | a, s'⟩, log'⟩ <;> rfl

theorem exec_liftM (x : Logged α) (s : Session σ) (log : Array LogRecord) :
    exec (liftM x : StepM σ α) s log =
      match x.run log with
      | .error overflow => .error overflow
      | .ok (a, log') => .ok ((.ok a, s), log') := by
  simp only [exec, liftM, monadLift, MonadLift.monadLift, ExceptT.lift, ExceptT.mk, ExceptT.run,
    StateT.run]
  rcases h : x log with _ | ⟨a, log'⟩ <;>
    simp only [Functor.map, StateT.map, StateT.lift, bind, StateT.bind, h] <;> rfl

theorem exec_call (op : ClientM σ α) (s : Session σ) (log : Array LogRecord) :
    exec (call op) s log =
      match (op.runFrom s.client).run log with
      | .error overflow => .error overflow
      | .ok ((r, c), log') => .ok ((.ok r, { s with client := c }), log') := by
  simp only [exec, call, ClientM.within, ClientM.runFrom, ExceptT.lift, ExceptT.mk, ExceptT.run,
    StateT.run]
  rcases h : op s.client log with _ | ⟨⟨r, c⟩, log'⟩ <;>
    simp only [Functor.map, StateT.map, bind, StateT.bind, h] <;> rfl

theorem exec_context (s : Session σ) (log : Array LogRecord) :
    exec (context : StepM σ Context) s log = .ok ((.ok s.context, s), log) := rfl

theorem exec_modifyContext (f : Context → Context) (s : Session σ) (log : Array LogRecord) :
    exec (modifyContext f : StepM σ Unit) s log =
      .ok ((.ok (), { s with context := f s.context }), log) := rfl

theorem exec_fromResult (r : Except HarnessError α) (s : Session σ) (log : Array LogRecord) :
    exec (fromResult r : StepM σ α) s log = .ok ((r, s), log) := by
  cases r <;> rfl

/-! ### What a step ensures -/

/-- Every run of `step` from `s` that does not halt ends with a result and a session
satisfying `post`. -/
def Ensures (step : StepM σ α) (post : Except HarnessError α → Session σ → Prop)
    (s : Session σ) : Prop :=
  ∀ ⦃log r s' log'⦄, exec step s log = .ok ((r, s'), log') → post r s'

/-- What a step ensures after a first one returned `r`: the rest of the step when it returned
a value, the error otherwise. -/
def Continue (rest : α → StepM σ β) (post : Except HarnessError β → Session σ → Prop) :
    Except HarnessError α → Session σ → Prop
  | .ok a, s => Ensures (rest a) post s
  | .error e, s => post (.error e) s

@[simp] theorem continue_ok (rest : α → StepM σ β)
    (post : Except HarnessError β → Session σ → Prop) (a : α) (s : Session σ) :
    Continue rest post (.ok a) s = Ensures (rest a) post s := rfl

@[simp] theorem continue_error (rest : α → StepM σ β)
    (post : Except HarnessError β → Session σ → Prop) (e : HarnessError) (s : Session σ) :
    Continue rest post (.error e) s = post (.error e) s := rfl

variable {post post' : Except HarnessError α → Session σ → Prop} {s : Session σ}

theorem Ensures.mono {step : StepM σ α} (h : Ensures step post s)
    (hpost : ∀ r s', post r s' → post' r s') : Ensures step post' s :=
  fun _ _ _ _ hrun => hpost _ _ (h hrun)

theorem ensures_pure {a : α} (h : post (.ok a) s) : Ensures (pure a) post s := by
  intro log r s' log' hrun
  rw [exec_pure] at hrun
  cases hrun
  exact h

theorem ensures_throw {e : HarnessError} (h : post (.error e) s) : Ensures (throw e) post s := by
  intro log r s' log' hrun
  rw [exec_throw] at hrun
  cases hrun
  exact h

theorem ensures_bind {p : StepM σ α} {f : α → StepM σ β}
    {post : Except HarnessError β → Session σ → Prop} (h : Ensures p (Continue f post) s) :
    Ensures (p >>= f) post s := by
  intro log r s' log' hrun
  rw [exec_bind] at hrun
  rcases hp : exec p s log with _ | ⟨⟨_ | a, s₁⟩, log₁⟩ <;> rw [hp] at hrun
  · cases hrun
  · cases hrun
    exact h hp
  · exact h hp hrun

/-- Sequencing with what the first step is known to ensure. -/
theorem Ensures.bind {p : StepM σ α} {f : α → StepM σ β}
    {mid : Except HarnessError α → Session σ → Prop}
    {post : Except HarnessError β → Session σ → Prop} (hp : Ensures p mid s)
    (hf : ∀ r s', mid r s' → Continue f post r s') : Ensures (p >>= f) post s :=
  ensures_bind (hp.mono hf)

theorem ensures_map {p : StepM σ α} {f : α → β} {post : Except HarnessError β → Session σ → Prop}
    (h : Ensures p (fun r s' => post (f <$> r) s') s) : Ensures (f <$> p) post s := by
  intro log r s' log' hrun
  rw [exec_map] at hrun
  rcases hp : exec p s log with _ | ⟨⟨_ | a, s₁⟩, log₁⟩ <;> rw [hp] at hrun <;> cases hrun
  · exact h hp
  · exact h hp

/-- The value of a mapped step is the map of a value the step could return. -/
theorem Ensures.map {p : StepM σ α} {f : α → β} {Q : Except HarnessError α → Session σ → Prop}
    (h : Ensures p Q s) : Ensures (f <$> p) (fun r s' => ∃ r₀, r = f <$> r₀ ∧ Q r₀ s') s :=
  ensures_map (h.mono fun r _ hq => ⟨r, rfl, hq⟩)

/-- What a step guarded by a handler ensures: its value, or what the handler ensures after its
error. -/
def Handle (handler : HarnessError → StepM σ α) (post : Except HarnessError α → Session σ → Prop) :
    Except HarnessError α → Session σ → Prop
  | .ok a, s => post (.ok a) s
  | .error e, s => Ensures (handler e) post s

@[simp] theorem handle_ok (handler : HarnessError → StepM σ α) (a : α) (s : Session σ) :
    Handle handler post (.ok a) s = post (.ok a) s := rfl

@[simp] theorem handle_error (handler : HarnessError → StepM σ α) (e : HarnessError)
    (s : Session σ) : Handle handler post (.error e) s = Ensures (handler e) post s := rfl

theorem ensures_tryCatch {p : StepM σ α} {handler : HarnessError → StepM σ α}
    (h : Ensures p (Handle handler post) s) : Ensures (tryCatch p handler) post s := by
  intro log r s' log' hrun
  rw [exec_tryCatch] at hrun
  rcases hp : exec p s log with _ | ⟨⟨_ | a, s₁⟩, log₁⟩ <;> rw [hp] at hrun
  · cases hrun
  · exact h hp hrun
  · cases hrun
    exact h hp

/-- A guarded step, through what its body ensures: the handler runs on the body's errors. -/
theorem ensures_tryCatch_of {p : StepM σ α} {handler : HarnessError → StepM σ α}
    {Q : Except HarnessError α → Session σ → Prop} (hp : Ensures p Q s)
    (hq : ∀ r s', Q r s' → Handle handler post r s') : Ensures (tryCatch p handler) post s :=
  ensures_tryCatch (hp.mono hq)

theorem ensures_liftM {x : Logged α}
    (h : ∀ ⦃log a log'⦄, x.run log = .ok (a, log') → post (.ok a) s) :
    Ensures (liftM x) post s := by
  intro log r s' log' hrun
  rw [exec_liftM] at hrun
  rcases hx : x.run log with _ | ⟨a, log₁⟩ <;> rw [hx] at hrun <;> cases hrun
  exact h hx

/-- A client call gives back the client's answer, and the client is left in the state the
operation reached. -/
theorem ensures_call {op : ClientM σ α}
    {post : Except HarnessError (Except ClientError α) → Session σ → Prop}
    (h : ∀ r c, op.Answers s.client r c → post (.ok r) { s with client := c }) :
    Ensures (call op) post s := by
  intro log r s' log' hrun
  rw [exec_call] at hrun
  rcases hop : (op.runFrom s.client).run log with _ | ⟨⟨a, c⟩, log₁⟩ <;> rw [hop] at hrun
  · cases hrun
  · cases hrun
    exact h a c ⟨log, _, hop⟩

theorem ensures_context {post : Except HarnessError Context → Session σ → Prop}
    (h : post (.ok s.context) s) : Ensures context post s := by
  intro log r s' log' hrun
  rw [exec_context] at hrun
  cases hrun
  exact h

theorem ensures_modifyContext {f : Context → Context}
    {post : Except HarnessError Unit → Session σ → Prop}
    (h : post (.ok ()) { s with context := f s.context }) : Ensures (modifyContext f) post s := by
  intro log r s' log' hrun
  rw [exec_modifyContext] at hrun
  cases hrun
  exact h

theorem ensures_fromResult {r : Except HarnessError α} (h : post r s) :
    Ensures (fromResult r) post s := by
  intro log r' s' log' hrun
  rw [exec_fromResult] at hrun
  cases hrun
  exact h

/-! ### The helpers of a step -/

@[simp] theorem emit_bind_run {γ : Type} (level : Level) (message : String) (f : Unit → Logged γ)
    (log : Array LogRecord) :
    (emit level message >>= f).run log = (f ()).run (log.push { level, message }) := rfl

@[simp] theorem logged_pure_run {γ : Type} (a : γ) (log : Array LogRecord) :
    (pure a : Logged γ).run log = .ok (a, log) := rfl

theorem ensures_emit {level : Level} {message : String}
    {post : Except HarnessError Unit → Session σ → Prop} (h : post (.ok ()) s) :
    Ensures (liftM (emit level message)) post s :=
  ensures_liftM fun _ _ _ hx => by
    cases hx
    exact h

theorem ensures_checked {x : Except Overflow α} (h : ∀ a, x = .ok a → post (.ok a) s) :
    Ensures (liftM (checked x)) post s :=
  ensures_liftM fun _ a _ hx => by
    cases x with
    | error overflow => cases hx
    | ok value =>
      cases hx
      exact h a rfl

theorem ensures_record {outcome : StepOutcome} {post : Except HarnessError Unit → Session σ → Prop}
    (h : post (.ok ()) { s with context := s.context.record outcome }) :
    Ensures (record outcome) post s :=
  ensures_modifyContext h

theorem ensures_contract {post : Except HarnessError Address → Session σ → Prop}
    (h : post s.context.contract s) : Ensures contract post s :=
  ensures_bind (ensures_context (ensures_fromResult h))

theorem ensures_ensureMutable {post : Except HarnessError Unit → Session σ → Prop}
    (h : post s.context.ensureMutable s) : Ensures ensureMutable post s :=
  ensures_bind (ensures_context (ensures_fromResult h))

/-- In a phase that may not change the chain, a step that first asks whether it may stops there
and leaves the session as it was. -/
theorem ensures_halted {f : Unit → StepM σ α} (hhalted : s.context.phase.allowsMutations = false)
    (h : post (.error (.mutationsHalted s.context.phase)) s) :
    Ensures (ensureMutable >>= f) post s := by
  refine ensures_bind (ensures_ensureMutable ?_)
  simp only [Context.ensureMutable, hhalted, Bool.false_eq_true, if_false, continue_error]
  exact h

/-- A phase change that the transition table allows. -/
theorem ensures_transition {next : Phase} {post : Except HarnessError Unit → Session σ → Prop}
    (h : ∀ moved, s.context.transition next = .ok moved → post (.ok ()) { s with context := moved })
    (herror : ∀ e, s.context.transition next = .error e → post (.error e) s) :
    Ensures (transition next) post s := by
  refine ensures_bind (ensures_context (ensures_bind (ensures_fromResult ?_)))
  cases hmove : s.context.transition next with
  | error e => exact herror e hmove
  | ok moved =>
    exact ensures_bind (ensures_emit (ensures_modifyContext (h moved hmove)))

theorem ensures_abort {post : Except HarnessError Unit → Session σ → Prop}
    (h : post (.ok ()) { s with context := s.context.abort }) : Ensures abort post s := by
  refine ensures_bind (ensures_context ?_)
  dsimp only [continue_ok]
  split
  · exact ensures_bind (ensures_emit (ensures_modifyContext h))
  · exact ensures_modifyContext h

/-- `tolerate` turns an error that is not fatal into `none`. -/
theorem ensures_tolerate {step : StepM σ α}
    {post : Except HarnessError (Option α) → Session σ → Prop}
    (h : Ensures step (fun r s' => match r with
      | .ok a => post (.ok (some a)) s'
      | .error e => if e.isFatal then post (.error e) s' else post (.ok none) s') s) :
    Ensures (tolerate step) post s := by
  refine ensures_tryCatch (ensures_map (h.mono ?_))
  rintro (e | a) s' hpost
  · show Ensures (if e.isFatal then throw e else pure none) post s'
    split
    · exact ensures_throw (by simpa [*] using hpost)
    · exact ensures_pure (by simpa [*] using hpost)
  · exact hpost

/-- A step that raises nothing fatal is tolerated: the run goes on with the option of its value,
whatever the step returned. -/
theorem ensures_tolerated {step : StepM σ α} {Q : Except HarnessError α → Session σ → Prop}
    {P : Option α → Session σ → Prop} (h : Ensures step Q s)
    (hq : ∀ r s', Q r s' → (∀ e, r = .error e → e.isFatal = false) ∧ P r.toOption s') :
    Ensures (tolerate step) (fun r s' => ∃ a, r = .ok a ∧ P a s') s := by
  refine ensures_tolerate (h.mono fun r s' hQ => ?_)
  obtain ⟨hnot, hP⟩ := hq r s' hQ
  cases r with
  | ok a => exact ⟨some a, rfl, hP⟩
  | error e => simpa [hnot e rfl, Except.toOption] using hP

/-- A loop over a list, by an invariant of the elements already processed: from the invariant
before an element, the pass over it goes on to the next with the invariant extended by it. -/
theorem ensures_forIn {γ β : Type} {xs : List γ} {b : β} {f : γ → β → StepM σ (ForInStep β)}
    (I : List γ → β → Session σ → Prop)
    (hstep : ∀ pre x rest b s, xs = pre ++ x :: rest → I pre b s →
      Ensures (f x b) (fun r s' => ∃ b', r = .ok (.yield b') ∧ I (pre ++ [x]) b' s') s)
    (hinit : I [] b s) : Ensures (forIn xs b f) (fun r s' => ∃ b', r = .ok b' ∧ I xs b' s') s := by
  suffices h : ∀ rest pre b s, xs = pre ++ rest → I pre b s →
      Ensures (forIn rest b f) (fun r s' => ∃ b', r = .ok b' ∧ I xs b' s') s from
    h xs [] b s rfl hinit
  intro rest
  induction rest with
  | nil =>
    intro pre b s hxs hI
    rw [List.append_nil] at hxs
    subst hxs
    exact ensures_pure ⟨b, rfl, hI⟩
  | cons x rest ih =>
    intro pre b s hxs hI
    rw [List.forIn_cons]
    refine Ensures.bind (hstep pre x rest b s hxs hI) ?_
    rintro _ s' ⟨b', rfl, hI'⟩
    exact ih (pre ++ [x]) b' s' (by rw [hxs, List.append_assoc]; rfl) hI'

end NftProbe.Run.StepM
