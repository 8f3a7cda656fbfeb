import NftProbe.Proofs.Run.Exec

/-!
# Computations that return

Run steps and client operations are both computations that keep a state, log, fail with an
error of their own, and may halt on an overflow. `Returns m s post` says that `m`, run from the
state `s` with any log so far, neither halts nor fails: it returns a value and leaves a state
that together satisfy `post`. It is the total counterpart of `StepM.Ensures`: where `Ensures`
speaks of every run that happens to return, `Returns` says that the run does return.

The rules are backward rules, one for each way a computation is built, so a proof that a step
returns follows the step's text. The second half gives the rules for the helpers of run steps:
a client call returns when the client's operation does, and the phase changes, mutability
checks and contract reads that a passing run makes.
-/

set_option autoImplicit false

namespace NftProbe

variable {ε S α β : Type}

/-- Run from the state `s`, whatever the log so far, `m` neither halts nor fails: it returns a
value and a state that satisfy `post`. -/
def Returns (m : ExceptT ε (StateT S Logged) α) (s : S) (post : α → S → Prop) : Prop :=
  ∀ log, ∃ a s' log', ((ExceptT.run m).run s).run log = .ok ((.ok a, s'), log') ∧ post a s'

variable {m : ExceptT ε (StateT S Logged) α} {s : S} {post post' : α → S → Prop}

theorem Returns.mono (h : Returns m s post) (hpost : ∀ a s', post a s' → post' a s') :
    Returns m s post' := by
  intro log
  obtain ⟨a, s', log', hrun, hpost'⟩ := h log
  exact ⟨a, s', log', hrun, hpost _ _ hpost'⟩

theorem returns_pure {a : α} (h : post a s) : Returns (pure a : ExceptT ε (StateT S Logged) α) s post :=
  fun log => ⟨a, s, log, rfl, h⟩

theorem returns_bind {f : α → ExceptT ε (StateT S Logged) β} {post : β → S → Prop}
    (h : Returns m s fun a s' => Returns (f a) s' post) : Returns (m >>= f) s post := by
  intro log
  obtain ⟨a, s₁, log₁, hrun, hrest⟩ := h log
  obtain ⟨b, s₂, log₂, hrun', hpost⟩ := hrest log₁
  refine ⟨b, s₂, log₂, ?_, hpost⟩
  simp only [ExceptT.run_bind, StateT.run_bind]
  simp only [StateT.run] at hrun hrun' ⊢
  rw [show (ExceptT.run m s) log = .ok ((.ok a, s₁), log₁) from hrun]
  exact hrun'

/-- Sequencing with what the first computation is known to return. -/
theorem Returns.bind {f : α → ExceptT ε (StateT S Logged) β} {mid : α → S → Prop}
    {post : β → S → Prop} (h : Returns m s mid) (hf : ∀ a s', mid a s' → Returns (f a) s' post) :
    Returns (m >>= f) s post :=
  returns_bind (h.mono hf)

theorem returns_map {f : α → β} {post : β → S → Prop}
    (h : Returns m s fun a s' => post (f a) s') : Returns (f <$> m) s post := by
  intro log
  obtain ⟨a, s', log', hrun, hpost⟩ := h log
  refine ⟨f a, s', log', ?_, hpost⟩
  simp only [ExceptT.run_map, StateT.run_map]
  simp only [StateT.run] at hrun ⊢
  rw [show (ExceptT.run m s) log = .ok ((.ok a, s'), log') from hrun]
  rfl

/-- A computation that returns never reaches its handler. -/
theorem returns_tryCatch {handler : ε → ExceptT ε (StateT S Logged) α} (h : Returns m s post) :
    Returns (tryCatch m handler) s post := by
  intro log
  obtain ⟨a, s', log', hrun, hpost⟩ := h log
  refine ⟨a, s', log', ?_, hpost⟩
  show ((ExceptT.tryCatch m handler).run.run s).run log = _
  simp only [ExceptT.tryCatch, ExceptT.mk, ExceptT.run, StateT.run_bind]
  simp only [ExceptT.run, StateT.run] at hrun ⊢
  rw [show m s log = .ok ((.ok a, s'), log') from hrun]
  rfl

/-- A log computation returns with the state untouched when it returns from every log. -/
theorem returns_liftM {x : Logged α}
    (h : ∀ log, ∃ a log', x.run log = .ok (a, log') ∧ post a s) :
    Returns (liftM x : ExceptT ε (StateT S Logged) α) s post := by
  intro log
  obtain ⟨a, log', hx, hpost⟩ := h log
  refine ⟨a, s, log', ?_, hpost⟩
  simp only [liftM, monadLift, MonadLift.monadLift, ExceptT.lift, ExceptT.mk, ExceptT.run,
    StateT.run, StateT.lift, bind, StateT.bind, Functor.map, StateT.map]
  simp only [StateT.run] at hx
  rw [hx]
  rfl

theorem returns_emit {level : Level} {message : String} {post : Unit → S → Prop}
    (h : post () s) : Returns (liftM (emit level message) : ExceptT ε (StateT S Logged) Unit) s post :=
  returns_liftM fun log => ⟨(), log.push { level, message }, rfl, h⟩

/-- A checked computation that did not overflow returns its value. -/
theorem returns_checked {x : Except Overflow α} {a : α} (hx : x = .ok a) (h : post a s) :
    Returns (liftM (checked x) : ExceptT ε (StateT S Logged) α) s post := by
  subst hx
  exact returns_liftM fun log => ⟨a, log, rfl, h⟩

/-- A loop over a list, by an invariant of the elements already processed: from the invariant
before an element, the pass over it goes on to the next with the invariant extended by it. -/
theorem returns_forIn {γ : Type} {xs : List γ} {b : β}
    {f : γ → β → ExceptT ε (StateT S Logged) (ForInStep β)} (I : List γ → β → S → Prop)
    (hstep : ∀ pre x rest b s, xs = pre ++ x :: rest → I pre b s →
      Returns (f x b) s fun r s' => ∃ b', r = .yield b' ∧ I (pre ++ [x]) b' s')
    (hinit : I [] b s) : Returns (forIn xs b f) s (I xs) := by
  suffices h : ∀ rest pre b s, xs = pre ++ rest → I pre b s → Returns (forIn rest b f) s (I xs) from
    h xs [] b s rfl hinit
  intro rest
  induction rest with
  | nil =>
    intro pre b s hxs hI
    rw [List.append_nil] at hxs
    subst hxs
    exact returns_pure hI
  | cons x rest ih =>
    intro pre b s hxs hI
    rw [List.forIn_cons]
    refine (hstep pre x rest b s hxs hI).bind ?_
    rintro _ s' ⟨b', rfl, hI'⟩
    exact ih (pre ++ [x]) b' s' (by rw [hxs, List.append_assoc]; rfl) hI'

end NftProbe

namespace NftProbe.Run.StepM

variable {σ α : Type} {s : Session σ}

theorem returns_context {post : Context → Session σ → Prop} (h : post s.context s) :
    Returns context s post :=
  fun log => ⟨s.context, s, log, rfl, h⟩

theorem returns_modifyContext {f : Context → Context} {post : Unit → Session σ → Prop}
    (h : post () { s with context := f s.context }) : Returns (modifyContext f) s post :=
  fun log => ⟨(), _, log, rfl, h⟩

theorem returns_fromResult {a : α} {post : α → Session σ → Prop} (h : post a s) :
    Returns (fromResult (.ok a)) s post :=
  fun log => ⟨a, s, log, rfl, h⟩

theorem returns_record {o : StepOutcome} {post : Unit → Session σ → Prop}
    (h : post () { s with context := s.context.record o }) : Returns (record o) s post :=
  returns_modifyContext h

/-- A phase change the table allows returns, in the phase it entered. -/
theorem returns_transition {next : Phase} {moved : Context} {post : Unit → Session σ → Prop}
    (hmove : s.context.transition next = .ok moved) (h : post () { s with context := moved }) :
    Returns (transition next) s post := by
  refine returns_bind (returns_context (returns_bind ?_))
  rw [hmove]
  exact returns_fromResult (returns_bind (returns_emit (returns_modifyContext h)))

theorem returns_ensureMutable {post : Unit → Session σ → Prop}
    (hmutable : s.context.phase.allowsMutations = true) (h : post () s) :
    Returns ensureMutable s post := by
  refine returns_bind (returns_context ?_)
  simp only [Context.ensureMutable, hmutable, if_true]
  exact returns_fromResult h

theorem returns_contract {address : Address} {post : Address → Session σ → Prop}
    (hdeployed : s.context.contract = .ok address) (h : post address s) :
    Returns contract s post := by
  refine returns_bind (returns_context ?_)
  rw [hdeployed]
  exact returns_fromResult h

/-- A step that returns is tolerated with its value. -/
theorem returns_tolerate {step : StepM σ α} {post : Option α → Session σ → Prop}
    (h : Returns step s fun a s' => post (some a) s') : Returns (tolerate step) s post :=
  returns_tryCatch (returns_map h)

end NftProbe.Run.StepM
