import Mathlib.Order.Defs.Unbundled
import InsertScript.Step

/-!
# Runs of steps

How a composed step runs follows from how its parts run. There are three kinds of lemmas:

* equations for a run whose parts are known (`bind_of_ok`, `ensuring_of_error`, ...), which execute
  a step symbolically;
* `Step.Leads R step`: however the step ends, what it leaves stands in the relation `R` to what it
  began with, the log included; `Step.Keeps r step` says so of the state alone. For a preorder this
  is handed on by every way to compose steps, so a frame condition of a large step is read off its
  parts.
* `Step.Parallel r r' first second`: two steps that begin in states related by `r` have the same
  outcome and end in states related by `r'`. This too is read off the parts. `Step.Respects r step`
  is the case of one step and one relation; it says what a step does not depend on.
-/

namespace InsertScript.Step

variable {σ τ α β : Type}

/-! ### Symbolic execution -/

theorem bind_of_ok {step : Step σ α} {next : α → Step σ β} {s t : Logged σ} {a : α}
    (h : step s = .ok a t) : (step >>= next) s = next a t := by
  change EStateM.bind step next s = next a t
  simp only [EStateM.bind, h]

theorem bind_of_error {step : Step σ α} {next : α → Step σ β} {s t : Logged σ} {failure : Failure}
    (h : step s = .error failure t) : (step >>= next) s = .error failure t := by
  change EStateM.bind step next s = .error failure t
  simp only [EStateM.bind, h]

@[simp] theorem pure_apply (a : α) (s : Logged σ) : (pure a : Step σ α) s = .ok a s := rfl

@[simp] theorem throw_apply (failure : Failure) (s : Logged σ) :
    (throw failure : Step σ α) s = .error failure s := rfl

@[simp] theorem current_apply (s : Logged σ) : current s = .ok s.state s := rfl

@[simp] theorem change_apply (f : σ → σ) (s : Logged σ) :
    change f s = .ok () { s with state := f s.state } := rfl

@[simp] theorem report_apply (level : Level) (origin message : String) (s : Logged σ) :
    report level origin message s
      = .ok () { s with log := s.log.add { level, origin, message } } := rfl

@[simp] theorem ofExcept_ok (a : α) (s : Logged σ) :
    (ofExcept (.ok a) : Step σ α) s = .ok a s := rfl

@[simp] theorem ofExcept_error (failure : Failure) (s : Logged σ) :
    (ofExcept (.error failure) : Step σ α) s = .error failure s := rfl

theorem zoom_of_ok {part : τ → σ} {replace : σ → τ → τ} {step : Step σ α} {s : Logged τ}
    {t : Logged σ} {a : α} (h : step { log := s.log, state := part s.state } = .ok a t) :
    zoom part replace step s = .ok a { log := t.log, state := replace t.state s.state } := by
  simp only [zoom, h]

theorem zoom_of_error {part : τ → σ} {replace : σ → τ → τ} {step : Step σ α} {s : Logged τ}
    {t : Logged σ} {failure : Failure}
    (h : step { log := s.log, state := part s.state } = .error failure t) :
    zoom part replace step s
      = .error failure { log := t.log, state := replace t.state s.state } := by
  simp only [zoom, h]

theorem attempt_of_ok {step : Step σ α} {s t : Logged σ} {a : α} (h : step s = .ok a t) :
    attempt step s = .ok (.ok a) t := by
  simp only [attempt, h]

theorem attempt_of_error {step : Step σ α} {s t : Logged σ} {failure : Failure}
    (h : step s = .error failure t) : attempt step s = .ok (.error failure) t := by
  simp only [attempt, h]

theorem ensuring_of_ok {step : Step σ α} {last : Step σ Unit} {s t u : Logged σ} {a : α}
    (h : step s = .ok a t) (hlast : last t = .ok () u) : ensuring step last s = .ok a u := by
  rw [ensuring, bind_of_ok (attempt_of_ok h), bind_of_ok hlast, ofExcept_ok]

theorem ensuring_of_error {step : Step σ α} {last : Step σ Unit} {s t u : Logged σ}
    {failure : Failure} (h : step s = .error failure t) (hlast : last t = .ok () u) :
    ensuring step last s = .error failure u := by
  rw [ensuring, bind_of_ok (attempt_of_error h), bind_of_ok hlast, ofExcept_error]

/-- Two steps succeed one after the other. -/
theorem ok_of_bind {step : Step σ α} {next : α → Step σ β} {s u : Logged σ} {b : β}
    (h : (step >>= next) s = .ok b u) : ∃ a t, step s = .ok a t ∧ next a t = .ok b u := by
  cases hs : step s with
  | ok a t => exact ⟨a, t, rfl, by rwa [bind_of_ok hs] at h⟩
  | error failure t =>
      rw [bind_of_error hs] at h
      cases h

/-- So do two computations without a state. -/
theorem ok_of_bind_except {ε : Type} {x : Except ε α} {f : α → Except ε β} {b : β}
    (h : (x >>= f) = .ok b) : ∃ a, x = .ok a ∧ f a = .ok b := by
  cases x with
  | ok a => exact ⟨a, rfl, h⟩
  | error failure => cases h

theorem error_of_bind_except {x : Except Failure α} {f : α → Except Failure β} {failure : Failure}
    (h : (x >>= f) = .error failure) :
    x = .error failure ∨ ∃ a, x = .ok a ∧ f a = .error failure := by
  cases x with
  | ok a => exact .inr ⟨a, rfl, h⟩
  | error refused => cases h; exact .inl rfl

@[simp] theorem isOk_ok {ε : Type} (a : α) : (Except.ok a : Except ε α).isOk = true := rfl

@[simp] theorem isOk_error {ε : Type} (e : ε) : (Except.error e : Except ε α).isOk = false := rfl

/-- What follows a computation and never fails. -/
theorem isOk_bind_pure {ε : Type} (x : Except ε α) (f : α → β) :
    (x >>= fun a => pure (f a)).isOk = x.isOk := by
  cases x <;> rfl

theorem isOk_bind_iff {ε : Type} {x : Except ε α} {f : α → Except ε β} {p q : Prop}
    (hx : x.isOk = true ↔ p) (hf : ∀ a, (f a).isOk = true ↔ q) : (x >>= f).isOk = true ↔ p ∧ q := by
  rw [← hx]
  cases x with
  | error e => simp [bind, Except.bind]
  | ok a => simpa [bind, Except.bind] using hf a

theorem ok_of_ensuring {step : Step σ α} {last : Step σ Unit} {s u : Logged σ} {a : α}
    (h : ensuring step last s = .ok a u) : ∃ t, step s = .ok a t ∧ last t = .ok () u := by
  obtain ⟨outcome, t, hattempt, h⟩ := ok_of_bind h
  obtain ⟨_, v, hlast, h⟩ := ok_of_bind h
  cases hs : step s with
  | ok b t' =>
      rw [attempt_of_ok hs] at hattempt
      cases hattempt
      cases h
      exact ⟨t, rfl, hlast⟩
  | error failure t' =>
      rw [attempt_of_error hs] at hattempt
      cases hattempt
      cases h

theorem ok_of_ofExcept {outcome : Except Failure α} {s t : Logged σ} {a : α}
    (h : (ofExcept outcome : Step σ α) s = .ok a t) : outcome = .ok a ∧ t = s := by
  cases outcome with
  | ok b => cases h; exact ⟨rfl, rfl⟩
  | error failure => cases h

theorem ok_of_zoom {part : τ → σ} {replace : σ → τ → τ} {step : Step σ α} {s t : Logged τ} {a : α}
    (h : zoom part replace step s = .ok a t) :
      ∃ u, step { log := s.log, state := part s.state } = .ok a u ∧
      t = { log := u.log, state := replace u.state s.state } := by
  cases hs : step { log := s.log, state := part s.state } with
  | ok b u =>
      rw [zoom_of_ok hs] at h
      cases h
      exact ⟨u, rfl, rfl⟩
  | error failure u =>
      rw [zoom_of_error hs] at h
      cases h

/-- A note of something goes into the log. -/
theorem noteAll_apply (record? : Option LogRecord) (s : Logged σ) :
    noteAll record? s = .ok () { s with log := record?.toList.foldl Log.add s.log } := by
  cases record? with
  | none => rfl
  | some record => rfl

/-- What is made of the answer of a step on a part can be made later. -/
theorem zoom_pure_bind {γ : Type} (part : τ → σ) (replace : σ → τ → τ) (step : Step σ α) (f : α → β)
    (next : β → Step τ γ) :
    (zoom part replace (step >>= fun a => pure (f a)) >>= next) = zoom part replace step >>=
      fun a => next (f a) := by
  funext s
  cases hs : step { log := s.log, state := part s.state } with
  | ok a t =>
      have hmade :
          (step >>= fun a => (pure (f a) : Step σ β)) { log := s.log, state := part s.state }
          = .ok (f a) t := by rw [bind_of_ok hs, pure_apply]
      rw [bind_of_ok (zoom_of_ok hmade), bind_of_ok (zoom_of_ok hs)]
  | error failure t =>
      have hmade :
          (step >>= fun a => (pure (f a) : Step σ β)) { log := s.log, state := part s.state }
          = .error failure t := bind_of_error hs
      rw [bind_of_error (zoom_of_error hmade), bind_of_error (zoom_of_error hs)]

theorem run_of_ok {step : Step σ α} {s t : Logged σ} {a : α} (h : step s = .ok a t) :
    step.run s = (.ok a, t) := by
  simp only [run, h]

theorem run_of_error {step : Step σ α} {s t : Logged σ} {failure : Failure}
    (h : step s = .error failure t) : step.run s = (.error failure, t) := by
  simp only [run, h]

theorem run_bind_of_ok {step : Step σ α} {next : α → Step σ β} {s t : Logged σ} {a : α}
    (h : step s = .ok a t) : (step >>= next).run s = (next a).run t := by
  rw [run, bind_of_ok h, run]

theorem run_bind_of_error {step : Step σ α} {next : α → Step σ β} {s t : Logged σ}
    {failure : Failure} (h : step s = .error failure t) :
    (step >>= next).run s = (.error failure, t) :=
  run_of_error (bind_of_error h)

/-- What is the case after a report whatever the log is. -/
theorem run_report_bind {level : Level} {origin message : String} {next : Unit → Step σ α}
    {s : Logged σ} {p : Except Failure α × Logged σ → Prop}
    (h : ∀ log, p ((next ()).run ⟨log, s.state⟩)) :
    p ((report level origin message >>= next).run s) := h _

/-- A step on a part changes this part, however it ends. -/
theorem state_run_zoom (part : τ → σ) (replace : σ → τ → τ) (step : Step σ α) (s : Logged τ) :
    ((zoom part replace step).run s).2.state
      = replace (step.run { log := s.log, state := part s.state }).2.state s.state := by
  cases hs : step { log := s.log, state := part s.state } with
  | ok a t => rw [run_of_ok hs, run_of_ok (zoom_of_ok hs)]
  | error failure t => rw [run_of_error hs, run_of_error (zoom_of_error hs)]

/-- What is done in any case begins with what the step has left, and leaves what is left in the
end. -/
theorem snd_run_ensuring (step : Step σ α) (last : Step σ Unit) (s : Logged σ) :
    ((ensuring step last).run s).2 = (last.run (step.run s).2).2 := by
  have hlast (outcome : Except Failure α) (t : Logged σ) :
      ((last >>= fun _ => ofExcept outcome).run t).2 = (last.run t).2 := by
    cases ht : last t with
    | ok _ u =>
        rw [run_of_ok ht, run, bind_of_ok ht]
        cases outcome with
        | ok a => rfl
        | error failure => rfl
    | error failure u => rw [run_of_error ht, run_of_error (bind_of_error ht)]
  cases hs : step s with
  | ok a t =>
      rw [run_of_ok hs, ensuring, run, bind_of_ok (attempt_of_ok hs)]
      exact hlast (.ok a) t
  | error failure t =>
      rw [run_of_error hs, ensuring, run, bind_of_ok (attempt_of_error hs)]
      exact hlast (.error failure) t

theorem ok_of_run {step : Step σ α} {s t : Logged σ} {a : α} (h : step.run s = (.ok a, t)) :
    step s = .ok a t := by
  cases hs : step s with
  | ok b u => rw [run_of_ok hs] at h; cases h; rfl
  | error failure u => rw [run_of_error hs] at h; cases h

theorem error_of_run {step : Step σ α} {s t : Logged σ} {failure : Failure}
    (h : step.run s = (.error failure, t)) : step s = .error failure t := by
  cases hs : step s with
  | ok b u => rw [run_of_ok hs] at h; cases h
  | error failure' u => rw [run_of_error hs] at h; cases h; rfl

theorem run_zoom {part : τ → σ} {replace : σ → τ → τ} {step : Step σ α}
    {s : Logged τ} {t : Logged σ} {outcome : Except Failure α}
    (h : step.run { log := s.log, state := part s.state } = (outcome, t)) :
    (zoom part replace step).run s =
      (outcome, { log := t.log, state := replace t.state s.state }) := by
  cases outcome with
  | ok a => exact run_of_ok (zoom_of_ok (ok_of_run h))
  | error failure => exact run_of_error (zoom_of_error (error_of_run h))

/-- After a common beginning two runs differ only if they do after it has succeeded. -/
theorem run_bind_congr {step : Step σ α} {next next' : α → Step σ β} {s : Logged σ}
    {r : Except Failure β × Logged σ → Except Failure β × Logged σ → Prop} (hrefl : ∀ x, r x x)
    (h : ∀ a t, step s = .ok a t → r ((next a).run t) ((next' a).run t)) :
    r ((step >>= next).run s) ((step >>= next').run s) := by
  cases hs : step s with
  | ok a t =>
      rw [run, run, bind_of_ok hs, bind_of_ok hs]
      exact h a t hs
  | error failure t =>
      rw [run, run, bind_of_error hs, bind_of_error hs]
      exact hrefl _

/-- Is this the answer of a step in a state, and the state that it leaves, whatever the log is? -/
def Answers (step : Step σ α) (before : σ) (a : α) (after : σ) : Prop :=
  ∀ log, ∃ log', step { log, state := before } = .ok a { log := log', state := after }

/-! ### What every outcome keeps -/

/-- Does what a step leaves always stand in a relation to what it began with? The log counts too. -/
def Leads (R : Logged σ → Logged σ → Prop) (step : Step σ α) : Prop := ∀ s, R s (step.run s).2

namespace Leads

variable {R : Logged σ → Logged σ → Prop}

theorem change {f : σ → σ} (h : ∀ s : Logged σ, R s { s with state := f s.state }) :
    Leads R (Step.change f) := h

theorem attempt {step : Step σ α} (h : Leads R step) : Leads R (Step.attempt step) := by
  intro s
  have := h s
  cases hs : step s with
  | ok a t => simpa only [run, attempt_of_ok hs, hs] using this
  | error failure t => simpa only [run, attempt_of_error hs, hs] using this

variable [IsPreorder (Logged σ) R]

theorem pure (a : α) : Leads R (Pure.pure a) := fun s => refl_of R s

theorem throw (failure : Failure) : Leads R (MonadExcept.throw failure : Step σ α) :=
  fun s => refl_of R s

theorem current : Leads R (Step.current (σ := σ)) := fun s => refl_of R s

theorem ofExcept (outcome : Except Failure α) : Leads R (Step.ofExcept outcome) := by
  cases outcome with
  | ok a => exact pure a
  | error failure => exact throw failure

theorem bind {step : Step σ α} {next : α → Step σ β} (h : Leads R step)
    (hnext : ∀ a, Leads R (next a)) : Leads R (step >>= next) := by
  intro s
  have hfirst := h s
  cases hs : step s with
  | ok a t =>
      rw [run_of_ok hs] at hfirst
      have hrest := hnext a t
      rw [run, bind_of_ok hs]
      exact trans_of R hfirst hrest
  | error failure t =>
      simp only [run, hs] at hfirst
      simpa only [run, bind_of_error hs] using hfirst

theorem ensuring {step : Step σ α} {last : Step σ Unit} (h : Leads R step) (hlast : Leads R last) :
    Leads R (Step.ensuring step last) :=
  h.attempt.bind fun outcome => hlast.bind fun _ => ofExcept outcome

end Leads

/-- Does the state that a step leaves always stand in a relation to the one it began with? -/
def Keeps (r : σ → σ → Prop) (step : Step σ α) : Prop := ∀ s, r s.state (step.run s).2.state

namespace Keeps

variable {r : σ → σ → Prop}

theorem change {f : σ → σ} (h : ∀ s, r s (f s)) : Keeps r (Step.change f) := fun s => h s.state

theorem attempt {step : Step σ α} (h : Keeps r step) : Keeps r (Step.attempt step) :=
  Leads.attempt (R := InvImage r Logged.state) h

variable [IsPreorder σ r]

instance : IsPreorder (Logged σ) (InvImage r Logged.state) where
  refl s := refl_of r s.state
  trans _ _ _ h k := trans_of r h k

theorem pure (a : α) : Keeps r (Pure.pure a) := fun s => refl_of r s.state

theorem throw (failure : Failure) : Keeps r (MonadExcept.throw failure : Step σ α) :=
  fun s => refl_of r s.state

theorem current : Keeps r (Step.current (σ := σ)) := fun s => refl_of r s.state

theorem note (record : LogRecord) : Keeps r (Step.note record) := fun s => refl_of r s.state

theorem noteAll (record? : Option LogRecord) : Keeps r (Step.noteAll record?) := by
  cases record? with
  | none => exact pure ()
  | some record => exact note record

theorem ofExcept (outcome : Except Failure α) : Keeps r (Step.ofExcept outcome) :=
  Leads.ofExcept (R := InvImage r Logged.state) outcome

theorem bind {step : Step σ α} {next : α → Step σ β} (h : Keeps r step)
    (hnext : ∀ a, Keeps r (next a)) : Keeps r (step >>= next) :=
  Leads.bind (R := InvImage r Logged.state) h hnext

omit [IsPreorder σ r] in
theorem zoom {r' : τ → τ → Prop} {part : τ → σ} {replace : σ → τ → τ} {step : Step σ α}
    (h : Keeps r step) (hreplace : ∀ a x, r (part a) x → r' a (replace x a)) :
    Keeps r' (Step.zoom part replace step) := by
  intro s
  rw [state_run_zoom]
  exact hreplace _ _ (h { log := s.log, state := part s.state })

omit [IsPreorder σ r] in
/-- Two steps that keep different things keep what the one and then the other leads to. -/
theorem seq {r₁ r₂ : σ → σ → Prop} {step : Step σ α} {next : α → Step σ β} (h : Keeps r₁ step)
    (hnext : ∀ a, Keeps r₂ (next a)) (hfirst : ∀ a b, r₁ a b → r a b)
    (hboth : ∀ a b c, r₁ a b → r₂ b c → r a c) : Keeps r (step >>= next) := by
  intro s
  have hstep := h s
  cases hs : step s with
  | ok a t =>
      rw [run_of_ok hs] at hstep
      rw [run_bind_of_ok hs]
      exact hboth _ _ _ hstep (hnext a t)
  | error failure t =>
      rw [run_of_error hs] at hstep
      rw [run_bind_of_error hs]
      exact hfirst _ _ hstep

/-- What follows a step keeps what the step has left. -/
theorem after_bind {next : α → Step σ β} (h : ∀ a, Keeps r (next a)) (step : Step σ α)
    (s : Logged σ) : r (step.run s).2.state ((step >>= next).run s).2.state := by
  cases hs : step s with
  | ok a t =>
      rw [run_of_ok hs, run, bind_of_ok hs]
      exact h a t
  | error failure t =>
      rw [run_of_error hs, run_of_error (bind_of_error hs)]
      exact refl_of r t.state

omit [IsPreorder σ r] in
theorem after_ensuring {last : Step σ Unit} (h : Keeps r last) (step : Step σ α) (s : Logged σ) :
    r (step.run s).2.state ((Step.ensuring step last).run s).2.state := by
  rw [snd_run_ensuring]
  exact h (step.run s).2

end Keeps

/-- Is something about two states the same? -/
def Same (f : σ → β) (s t : σ) : Prop := f t = f s

instance (f : σ → β) : IsPreorder σ (Same f) where
  refl _ := rfl
  trans _ _ _ h k := Eq.trans k h

/-! ### Two runs side by side -/

/-- Have two steps from related states the same outcome, and do they leave states that stand in a
second relation? The logs may differ. -/
def Parallel (r r' : σ → σ → Prop) (first second : Step σ α) : Prop := ∀ s t, r s.state t.state →
  (first.run s).1 = (second.run t).1 ∧ r' (first.run s).2.state (second.run t).2.state

namespace Parallel

variable {r r' r₁ : σ → σ → Prop} {first second : Step σ α} {s t s' : Logged σ}

theorem of_ok {a : α} (h : Parallel r r' first second) (hst : r s.state t.state)
    (hs : first s = .ok a s') : ∃ t', second t = .ok a t' ∧ r' s'.state t'.state := by
  have hboth := h s t hst
  rw [run_of_ok hs] at hboth
  cases ht : second t with
  | ok b t' =>
      rw [run_of_ok ht] at hboth
      cases hboth.1
      exact ⟨t', rfl, hboth.2⟩
  | error failure t' =>
      rw [run_of_error ht] at hboth
      cases hboth.1

theorem of_error {failure : Failure} (h : Parallel r r' first second) (hst : r s.state t.state)
    (hs : first s = .error failure s') :
    ∃ t', second t = .error failure t' ∧ r' s'.state t'.state := by
  have hboth := h s t hst
  rw [run_of_error hs] at hboth
  cases ht : second t with
  | ok b t' =>
      rw [run_of_ok ht] at hboth
      cases hboth.1
  | error failure' t' =>
      rw [run_of_error ht] at hboth
      cases hboth.1
      exact ⟨t', rfl, hboth.2⟩

theorem weaken (h : Parallel r r₁ first second) (hsub : ∀ a b, r₁ a b → r' a b) :
    Parallel r r' first second :=
  fun s t hst => ⟨(h s t hst).1, hsub _ _ (h s t hst).2⟩

theorem change {f g : σ → σ} (h : ∀ a b, r a b → r' (f a) (g b)) :
    Parallel r r' (Step.change f) (Step.change g) :=
  fun s t hst => ⟨rfl, h s.state t.state hst⟩

/-- What holds when the first parts are done has to hold in the end, because they may fail. -/
theorem bind {next next' : α → Step σ β} (h : Parallel r r₁ first second)
    (hnext : ∀ a, Parallel r₁ r' (next a) (next' a)) (hsub : ∀ a b, r₁ a b → r' a b) :
    Parallel r r' (first >>= next) (second >>= next') := by
  intro s t hst
  cases hs : first s with
  | ok a s' =>
      obtain ⟨t', ht, hst'⟩ := h.of_ok hst hs
      simp only [run, bind_of_ok hs, bind_of_ok ht]
      exact hnext a s' t' hst'
  | error failure s' =>
      obtain ⟨t', ht, hst'⟩ := h.of_error hst hs
      simp only [run, bind_of_error hs, bind_of_error ht]
      exact ⟨trivial, hsub _ _ hst'⟩

/-- What follows may look at the states, which are related. -/
theorem current_bind {next next' : σ → Step σ α}
    (h : ∀ a b, r a b → Parallel r r' (next a) (next' b)) :
    Parallel r r' (Step.current >>= next) (Step.current >>= next') := by
  intro s t hst
  have hs : (Step.current >>= next) s = next s.state s := bind_of_ok (current_apply s)
  have ht : (Step.current >>= next') t = next' t.state t := bind_of_ok (current_apply t)
  simp only [run, hs, ht]
  exact h s.state t.state hst s t hst

theorem attempt (h : Parallel r r' first second) :
    Parallel r r' (Step.attempt first) (Step.attempt second) := by
  intro s t hst
  cases hs : first s with
  | ok a s' =>
      obtain ⟨t', ht, hst'⟩ := h.of_ok hst hs
      simp only [run, attempt_of_ok hs, attempt_of_ok ht]
      exact ⟨trivial, hst'⟩
  | error failure s' =>
      obtain ⟨t', ht, hst'⟩ := h.of_error hst hs
      simp only [run, attempt_of_error hs, attempt_of_error ht]
      exact ⟨trivial, hst'⟩

theorem ensuring {last : Step σ Unit} (h : Parallel r r' first second)
    (hlast : Parallel r' r' last last) :
    Parallel r r' (Step.ensuring first last) (Step.ensuring second last) := by
  refine h.attempt.bind (fun outcome => hlast.bind (fun _ s t hst => ?_) fun _ _ hab => hab)
    fun _ _ hab => hab
  cases outcome with
  | ok a => exact ⟨rfl, hst⟩
  | error failure => exact ⟨rfl, hst⟩

theorem zoom {R R' : τ → τ → Prop} {part : τ → σ} {replace : σ → τ → τ}
    (h : Parallel r r' first second) (hpart : ∀ a b, R a b → r (part a) (part b))
    (hreplace : ∀ a b x y, R a b → r' x y → R' (replace x a) (replace y b)) :
    Parallel R R' (Step.zoom part replace first) (Step.zoom part replace second) := by
  intro s t hst
  have hparts := hpart _ _ hst
  cases hs : first { log := s.log, state := part s.state } with
  | ok a s' =>
      obtain ⟨t', ht, hst'⟩ := h.of_ok (t := { log := t.log, state := part t.state }) hparts hs
      simp only [run, zoom_of_ok hs, zoom_of_ok ht]
      exact ⟨trivial, hreplace _ _ _ _ hst hst'⟩
  | error failure s' =>
      obtain ⟨t', ht, hst'⟩ := h.of_error (t := { log := t.log, state := part t.state }) hparts hs
      simp only [run, zoom_of_error hs, zoom_of_error ht]
      exact ⟨trivial, hreplace _ _ _ _ hst hst'⟩

end Parallel

/-- Have runs from related states the same outcome, and do they leave related states? The logs may
differ. -/
def Respects (r : σ → σ → Prop) (step : Step σ α) : Prop := Parallel r r step step

namespace Respects

variable {r : σ → σ → Prop} {step : Step σ α} {s t s' : Logged σ}

theorem of_ok {a : α} (h : Respects r step) (hst : r s.state t.state) (hs : step s = .ok a s') :
    ∃ t', step t = .ok a t' ∧ r s'.state t'.state :=
  Parallel.of_ok h hst hs

theorem of_error {failure : Failure} (h : Respects r step) (hst : r s.state t.state)
    (hs : step s = .error failure s') : ∃ t', step t = .error failure t' ∧ r s'.state t'.state :=
  Parallel.of_error h hst hs

theorem pure (a : α) : Respects r (Pure.pure a) := fun _ _ h => ⟨rfl, h⟩

theorem throw (failure : Failure) : Respects r (MonadExcept.throw failure : Step σ α) :=
  fun _ _ h => ⟨rfl, h⟩

theorem note (record : LogRecord) : Respects r (Step.note record) := fun _ _ h => ⟨rfl, h⟩

theorem noteAll (record? : Option LogRecord) : Respects r (Step.noteAll record?) := by
  cases record? with
  | none => exact pure ()
  | some record => exact note record

theorem ofExcept (outcome : Except Failure α) : Respects r (Step.ofExcept outcome) := by
  cases outcome with
  | ok a => exact pure a
  | error failure => exact throw failure

theorem change {f : σ → σ} (h : ∀ a b, r a b → r (f a) (f b)) : Respects r (Step.change f) :=
  Parallel.change h

theorem bind {next : α → Step σ β} (h : Respects r step) (hnext : ∀ a, Respects r (next a)) :
    Respects r (step >>= next) :=
  Parallel.bind h hnext fun _ _ hab => hab

/-- What follows may look at the state as far as related states look the same. -/
theorem current_bind {next : σ → Step σ α} (hsame : ∀ a b, r a b → next a = next b)
    (h : ∀ a, Respects r (next a)) : Respects r (Step.current >>= next) := by
  refine Parallel.current_bind fun a b hab => ?_
  rw [hsame a b hab]
  exact h b

theorem attempt (h : Respects r step) : Respects r (Step.attempt step) := Parallel.attempt h

theorem exists_of_forall {ι : Type} {r : ι → σ → σ → Prop} (h : ∀ k, Respects (r k) step) :
    Respects (fun a b => ∃ k, r k a b) step := by
  rintro s t ⟨k, hst⟩
  exact ⟨(h k s t hst).1, k, (h k s t hst).2⟩

theorem ensuring {last : Step σ Unit} (h : Respects r step) (hlast : Respects r last) :
    Respects r (Step.ensuring step last) :=
  Parallel.ensuring h hlast

theorem zoom {r' : τ → τ → Prop} {part : τ → σ} {replace : σ → τ → τ} (h : Respects r step)
    (hpart : ∀ a b, r' a b → r (part a) (part b))
    (hreplace : ∀ a b x y, r' a b → r x y → r' (replace x a) (replace y b)) :
    Respects r' (Step.zoom part replace step) :=
  Parallel.zoom h hpart hreplace

/-! What a step does in a state does not depend on the log. -/

theorem eq_change (f : σ → σ) : Respects Eq (Step.change f) :=
  Respects.change fun _ _ h => congrArg f h

theorem eq_current_bind {next : σ → Step σ α} (h : ∀ a, Respects Eq (next a)) :
    Respects Eq (Step.current >>= next) :=
  Respects.current_bind (fun _ _ hab => congrArg next hab) h

theorem eq_zoom {part : τ → σ} {replace : σ → τ → τ} (h : Respects Eq step) :
    Respects Eq (Step.zoom part replace step) :=
  h.zoom (fun _ _ hab => congrArg part hab) fun _ _ _ _ hab hxy => by rw [hab, hxy]

end Respects

end InsertScript.Step
