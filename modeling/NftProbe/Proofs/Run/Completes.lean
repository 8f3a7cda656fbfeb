import NftProbe.Proofs.Run.Exec

/-!
# Steps that complete

`StepM.Completes step post s` is the total counterpart of `StepM.Ensures`: run from the session
`s`, whatever the log so far, the step does not halt, and it ends with a result (a value or a
`HarnessError`) and a session that satisfy `post`. A run that is refused with an error still
completes; only an overflow stops it. The rules follow those of `Ensures` one for one, so a
proof that a step completes reads the step's text from left to right, and the two places where
a step may halt show up as the side conditions of two rules: a client operation must answer
(`ClientM.Total`), and a checked computation must not overflow (`completes_checked`).
-/

set_option autoImplicit false

namespace NftProbe

/-- A client operation that answers from every state, whatever the log: it never halts. -/
def ClientM.Total {σ α : Type} (op : ClientM σ α) : Prop :=
  ∀ a log, ∃ r a' log', (op.runFrom a).run log = .ok ((r, a'), log')

theorem ClientM.total_pure {σ α : Type} (x : α) : (pure x : ClientM σ α).Total :=
  fun _ _ => ⟨_, _, _, rfl⟩

theorem ClientM.total_throw {σ α : Type} (e : ClientError) : (throw e : ClientM σ α).Total :=
  fun _ _ => ⟨_, _, _, rfl⟩

end NftProbe

namespace NftProbe.Run.StepM

variable {σ α β : Type}

/-- Run from `s`, whatever the log so far, `step` does not halt, and it ends with a result and
a session satisfying `post`. -/
def Completes (step : StepM σ α) (post : Except HarnessError α → Session σ → Prop)
    (s : Session σ) : Prop :=
  ∀ log, ∃ r s' log', exec step s log = .ok ((r, s'), log') ∧ post r s'

/-- What a step completes with after a first one ended with `r`: the rest of the step when it
returned a value, the error otherwise. -/
def Proceeds (rest : α → StepM σ β) (post : Except HarnessError β → Session σ → Prop) :
    Except HarnessError α → Session σ → Prop
  | .ok a, s => Completes (rest a) post s
  | .error e, s => post (.error e) s

@[simp] theorem proceeds_ok (rest : α → StepM σ β)
    (post : Except HarnessError β → Session σ → Prop) (a : α) (s : Session σ) :
    Proceeds rest post (.ok a) s = Completes (rest a) post s := rfl

@[simp] theorem proceeds_error (rest : α → StepM σ β)
    (post : Except HarnessError β → Session σ → Prop) (e : HarnessError) (s : Session σ) :
    Proceeds rest post (.error e) s = post (.error e) s := rfl

/-- What a guarded step completes with: its value, or what the handler completes with after its
error. -/
def Recovers (handler : HarnessError → StepM σ α)
    (post : Except HarnessError α → Session σ → Prop) :
    Except HarnessError α → Session σ → Prop
  | .ok a, s => post (.ok a) s
  | .error e, s => Completes (handler e) post s

@[simp] theorem recovers_ok (handler : HarnessError → StepM σ α)
    (post : Except HarnessError α → Session σ → Prop) (a : α) (s : Session σ) :
    Recovers handler post (.ok a) s = post (.ok a) s := rfl

@[simp] theorem recovers_error (handler : HarnessError → StepM σ α)
    (post : Except HarnessError α → Session σ → Prop) (e : HarnessError) (s : Session σ) :
    Recovers handler post (.error e) s = Completes (handler e) post s := rfl

variable {post post' : Except HarnessError α → Session σ → Prop} {s : Session σ}

theorem Completes.mono {step : StepM σ α} (h : Completes step post s)
    (hpost : ∀ r s', post r s' → post' r s') : Completes step post' s := by
  intro log
  obtain ⟨r, s', log', hrun, hpost'⟩ := h log
  exact ⟨r, s', log', hrun, hpost r s' hpost'⟩

theorem completes_pure {a : α} (h : post (.ok a) s) : Completes (pure a) post s :=
  fun log => ⟨.ok a, s, log, exec_pure a s log, h⟩

theorem completes_throw {e : HarnessError} (h : post (.error e) s) : Completes (throw e) post s :=
  fun log => ⟨.error e, s, log, exec_throw e s log, h⟩

theorem completes_bind {p : StepM σ α} {f : α → StepM σ β}
    {post : Except HarnessError β → Session σ → Prop} (h : Completes p (Proceeds f post) s) :
    Completes (p >>= f) post s := by
  intro log
  obtain ⟨r, s₁, log₁, hrun, hproceeds⟩ := h log
  rw [exec_bind, hrun]
  cases r with
  | error e => exact ⟨.error e, s₁, log₁, rfl, hproceeds⟩
  | ok a => exact hproceeds log₁

/-- Sequencing with what the first step is known to complete with. -/
theorem Completes.bind {p : StepM σ α} {f : α → StepM σ β}
    {mid : Except HarnessError α → Session σ → Prop}
    {post : Except HarnessError β → Session σ → Prop} (hp : Completes p mid s)
    (hf : ∀ r s', mid r s' → Proceeds f post r s') : Completes (p >>= f) post s :=
  completes_bind (hp.mono hf)

theorem completes_map {p : StepM σ α} {f : α → β}
    {post : Except HarnessError β → Session σ → Prop}
    (h : Completes p (fun r s' => post (f <$> r) s') s) : Completes (f <$> p) post s := by
  intro log
  obtain ⟨r, s₁, log₁, hrun, hpost⟩ := h log
  rw [exec_map, hrun]
  cases r with
  | error e => exact ⟨.error e, s₁, log₁, rfl, hpost⟩
  | ok a => exact ⟨.ok (f a), s₁, log₁, rfl, hpost⟩

theorem completes_tryCatch {p : StepM σ α} {handler : HarnessError → StepM σ α}
    (h : Completes p (Recovers handler post) s) : Completes (tryCatch p handler) post s := by
  intro log
  obtain ⟨r, s₁, log₁, hrun, hrecovers⟩ := h log
  rw [exec_tryCatch, hrun]
  cases r with
  | error e => exact hrecovers log₁
  | ok a => exact ⟨.ok a, s₁, log₁, rfl, hrecovers⟩

/-- A guarded step, through what its body completes with. -/
theorem Completes.tryCatch {p : StepM σ α} {handler : HarnessError → StepM σ α}
    {Q : Except HarnessError α → Session σ → Prop} (hp : Completes p Q s)
    (hq : ∀ r s', Q r s' → Recovers handler post r s') : Completes (tryCatch p handler) post s :=
  completes_tryCatch (hp.mono hq)

/-- A log computation that never halts completes with each value it gives. -/
theorem completes_liftM {x : Logged α}
    (h : ∀ log, ∃ a log', x.run log = .ok (a, log') ∧ post (.ok a) s) :
    Completes (liftM x) post s := by
  intro log
  obtain ⟨a, log', hx, hpost⟩ := h log
  refine ⟨.ok a, s, log', ?_, hpost⟩
  rw [exec_liftM, hx]

/-- A client call completes when the client's operation answers from every state. -/
theorem completes_call {op : ClientM σ α}
    {post : Except HarnessError (Except ClientError α) → Session σ → Prop} (htotal : op.Total)
    (h : ∀ r c, op.Answers s.client r c → post (.ok r) { s with client := c }) :
    Completes (call op) post s := by
  intro log
  obtain ⟨r, c, log', hop⟩ := htotal s.client log
  refine ⟨.ok r, { s with client := c }, log', ?_, h r c ⟨log, log', hop⟩⟩
  rw [exec_call, hop]

theorem completes_context {post : Except HarnessError Context → Session σ → Prop}
    (h : post (.ok s.context) s) : Completes context post s :=
  fun log => ⟨_, s, log, exec_context s log, h⟩

theorem completes_modifyContext {f : Context → Context}
    {post : Except HarnessError Unit → Session σ → Prop}
    (h : post (.ok ()) { s with context := f s.context }) : Completes (modifyContext f) post s :=
  fun log => ⟨_, _, log, exec_modifyContext f s log, h⟩

theorem completes_fromResult {r : Except HarnessError α} (h : post r s) :
    Completes (fromResult r) post s :=
  fun log => ⟨r, s, log, exec_fromResult r s log, h⟩

theorem completes_emit {level : Level} {message : String}
    {post : Except HarnessError Unit → Session σ → Prop} (h : post (.ok ()) s) :
    Completes (liftM (emit level message)) post s :=
  completes_liftM fun log => ⟨(), log.push { level, message }, rfl, h⟩

/-- A checked computation completes when it does not overflow. -/
theorem completes_checked {x : Except Overflow α} {a : α} (hx : x = .ok a) (h : post (.ok a) s) :
    Completes (liftM (checked x)) post s := by
  subst hx
  exact completes_liftM fun log => ⟨a, log, rfl, h⟩

theorem completes_record {outcome : StepOutcome}
    {post : Except HarnessError Unit → Session σ → Prop}
    (h : post (.ok ()) { s with context := s.context.record outcome }) :
    Completes (record outcome) post s :=
  completes_modifyContext h

theorem completes_contract {post : Except HarnessError Address → Session σ → Prop}
    (h : post s.context.contract s) : Completes contract post s :=
  completes_bind (completes_context (completes_fromResult h))

theorem completes_ensureMutable {post : Except HarnessError Unit → Session σ → Prop}
    (h : post s.context.ensureMutable s) : Completes ensureMutable post s :=
  completes_bind (completes_context (completes_fromResult h))

theorem completes_transition {next : Phase} {post : Except HarnessError Unit → Session σ → Prop}
    (h : ∀ moved, s.context.transition next = .ok moved → post (.ok ()) { s with context := moved })
    (herror : ∀ e, s.context.transition next = .error e → post (.error e) s) :
    Completes (transition next) post s := by
  refine completes_bind (completes_context (completes_bind (completes_fromResult ?_)))
  cases hmove : s.context.transition next with
  | error e => exact herror e hmove
  | ok moved => exact completes_bind (completes_emit (completes_modifyContext (h moved hmove)))

theorem completes_abort {post : Except HarnessError Unit → Session σ → Prop}
    (h : post (.ok ()) { s with context := s.context.abort }) : Completes abort post s := by
  refine completes_bind (completes_context ?_)
  dsimp only [proceeds_ok]
  split
  · exact completes_bind (completes_emit (completes_modifyContext h))
  · exact completes_modifyContext h

end NftProbe.Run.StepM
