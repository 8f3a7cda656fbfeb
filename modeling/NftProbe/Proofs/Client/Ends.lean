import NftProbe.Proofs.Run.Returns

/-!
# Operations that end

A client operation keeps a state, logs, may fail with an error of its own and may halt on an
overflow. For the simulated chain what it does to its state never depends on the log it starts
from, so one fact describes a whole run: `Ends m s r s'` says that `m`, run from the state `s`
with any log so far, does not halt, answers `r` and leaves the state `s'`. Where `Returns`
speaks only of runs that succeed, `Ends` fixes the answer, a value or an error, and the state.
`Halts m s` is the other way a run ends: with an overflow, from every log.

The rules follow how an operation is built (`pure`, `throw`, `>>=`, reading and writing the
state, a lifted log computation), so the proof that an operation ends in a given way reads the
operation's text from top to bottom. `Ends.answers_eq` makes an operation that ends a
deterministic one: whatever run of it the program observed is the one `Ends` names.
-/

set_option autoImplicit false

namespace NftProbe

variable {ε S α β : Type}

/-- Run from the state `s`, whatever the log so far, `m` does not halt: it answers `r` and
leaves the state `s'`. -/
def Ends (m : ExceptT ε (StateT S Logged) α) (s : S) (r : Except ε α) (s' : S) : Prop :=
  ∀ log, ∃ log', ((ExceptT.run m).run s).run log = .ok ((r, s'), log')

/-- Run from the state `s`, whatever the log so far, `m` halts on an overflow. -/
def Halts (m : ExceptT ε (StateT S Logged) α) (s : S) : Prop :=
  ∀ log, ∃ overflow, ((ExceptT.run m).run s).run log = .error overflow

variable {m : ExceptT ε (StateT S Logged) α} {s s₁ s₂ : S}

theorem ends_pure (a : α) (s : S) : Ends (pure a : ExceptT ε (StateT S Logged) α) s (.ok a) s :=
  fun log => ⟨log, rfl⟩

theorem ends_throw (e : ε) (s : S) :
    Ends (throw e : ExceptT ε (StateT S Logged) α) s (.error e) s :=
  fun log => ⟨log, rfl⟩

/-- A first operation that ends with a value hands the state it leaves to the rest. -/
theorem Ends.bind_ok {f : α → ExceptT ε (StateT S Logged) β} {a : α} {r : Except ε β}
    (h : Ends m s (.ok a) s₁) (hf : Ends (f a) s₁ r s₂) : Ends (m >>= f) s r s₂ := by
  intro log
  obtain ⟨log₁, hrun⟩ := h log
  obtain ⟨log₂, hrun'⟩ := hf log₁
  refine ⟨log₂, ?_⟩
  simp only [ExceptT.run_bind, StateT.run_bind]
  simp only [StateT.run] at hrun hrun' ⊢
  rw [show (ExceptT.run m s) log = .ok ((.ok a, s₁), log₁) from hrun]
  exact hrun'

/-- A first operation that fails ends the whole with its error. -/
theorem Ends.bind_error {f : α → ExceptT ε (StateT S Logged) β} {e : ε}
    (h : Ends m s (.error e) s₁) : Ends (m >>= f) s (.error e) s₁ := by
  intro log
  obtain ⟨log₁, hrun⟩ := h log
  refine ⟨log₁, ?_⟩
  simp only [ExceptT.run_bind, StateT.run_bind]
  simp only [StateT.run] at hrun ⊢
  rw [show (ExceptT.run m s) log = .ok ((.error e, s₁), log₁) from hrun]
  rfl

theorem Ends.map {f : α → β} {a : α} (h : Ends m s (.ok a) s₁) :
    Ends (f <$> m) s (.ok (f a)) s₁ := by
  intro log
  obtain ⟨log₁, hrun⟩ := h log
  refine ⟨log₁, ?_⟩
  simp only [ExceptT.run_map, StateT.run_map]
  simp only [StateT.run] at hrun ⊢
  rw [show (ExceptT.run m s) log = .ok ((.ok a, s₁), log₁) from hrun]
  rfl

theorem ends_getThe (s : S) : Ends (getThe S : ExceptT ε (StateT S Logged) S) s (.ok s) s :=
  fun log => ⟨log, rfl⟩

theorem ends_set (s s' : S) :
    Ends (set s' : ExceptT ε (StateT S Logged) PUnit) s (.ok ()) s' :=
  fun log => ⟨log, rfl⟩

theorem ends_modifyThe (f : S → S) (s : S) :
    Ends (modifyThe S f : ExceptT ε (StateT S Logged) PUnit) s (.ok ()) (f s) :=
  fun log => ⟨log, rfl⟩

/-- A log computation that returns `a` from every log ends with it, the state untouched. -/
theorem ends_liftM {x : Logged α} {a : α} (h : ∀ log, ∃ log', x.run log = .ok (a, log'))
    (s : S) : Ends (liftM x : ExceptT ε (StateT S Logged) α) s (.ok a) s := by
  intro log
  obtain ⟨log', hx⟩ := h log
  refine ⟨log', ?_⟩
  simp only [liftM, monadLift, MonadLift.monadLift, ExceptT.lift, ExceptT.mk, ExceptT.run,
    StateT.run, StateT.lift, bind, StateT.bind, Functor.map, StateT.map]
  simp only [StateT.run] at hx
  rw [hx]
  rfl

theorem ends_emit (level : Level) (message : String) (s : S) :
    Ends (liftM (emit level message) : ExceptT ε (StateT S Logged) Unit) s (.ok ()) s :=
  ends_liftM (fun log => ⟨log.push { level, message }, rfl⟩) s

theorem ends_checked {x : Except Overflow α} {a : α} (hx : x = .ok a) (s : S) :
    Ends (liftM (checked x) : ExceptT ε (StateT S Logged) α) s (.ok a) s := by
  subst hx
  exact ends_liftM (fun log => ⟨log, rfl⟩) s

/-- An operation that halts halts whatever follows it. -/
theorem Halts.bind {f : α → ExceptT ε (StateT S Logged) β} (h : Halts m s) :
    Halts (m >>= f) s := by
  intro log
  obtain ⟨overflow, hrun⟩ := h log
  refine ⟨overflow, ?_⟩
  simp only [ExceptT.run_bind, StateT.run_bind]
  simp only [StateT.run] at hrun ⊢
  rw [show (ExceptT.run m s) log = .error overflow from hrun]
  rfl

theorem Ends.bind_halts {f : α → ExceptT ε (StateT S Logged) β} {a : α}
    (h : Ends m s (.ok a) s₁) (hf : Halts (f a) s₁) : Halts (m >>= f) s := by
  intro log
  obtain ⟨log₁, hrun⟩ := h log
  obtain ⟨overflow, hrun'⟩ := hf log₁
  refine ⟨overflow, ?_⟩
  simp only [ExceptT.run_bind, StateT.run_bind]
  simp only [StateT.run] at hrun hrun' ⊢
  rw [show (ExceptT.run m s) log = .ok ((.ok a, s₁), log₁) from hrun]
  exact hrun'

theorem halts_checked {x : Except Overflow α} {overflow : Overflow} (hx : x = .error overflow)
    (s : S) : Halts (liftM (checked x) : ExceptT ε (StateT S Logged) α) s := by
  subst hx
  intro log
  exact ⟨overflow, rfl⟩

/-! ### Ends and what a client answers -/

variable {σ : Type} {op : ClientM σ α} {a a' a₂ : σ} {r r₂ : Except ClientError α}

/-- An operation that ends answers as `Ends` says. -/
theorem Ends.answers (h : Ends op a r a') : op.Answers a r a' := by
  obtain ⟨log', hrun⟩ := h #[]
  exact ⟨#[], log', hrun⟩

/-- An operation that ends has no other answer. -/
theorem Ends.answers_eq (h : Ends op a r a') (hanswer : op.Answers a r₂ a₂) :
    r₂ = r ∧ a₂ = a' := by
  obtain ⟨log, log₂, hrun₂⟩ := hanswer
  obtain ⟨log', hrun⟩ := h log
  simp only [ClientM.runFrom] at hrun₂
  rw [hrun] at hrun₂
  cases hrun₂
  exact ⟨rfl, rfl⟩

/-- An operation that halts has no answer. -/
theorem Halts.not_answers (h : Halts op a) : ¬op.Answers a r₂ a₂ := by
  rintro ⟨log, log₂, hrun₂⟩
  obtain ⟨overflow, hrun⟩ := h log
  simp only [ClientM.runFrom] at hrun₂
  rw [hrun] at hrun₂
  cases hrun₂

/-- An operation that ends with a value returns it. -/
theorem Ends.returns {x : α} (h : Ends op a (.ok x) a') :
    Returns op a fun x' a'' => x' = x ∧ a'' = a' := by
  intro log
  obtain ⟨log', hrun⟩ := h log
  exact ⟨x, a', log', hrun, rfl, rfl⟩

end NftProbe
