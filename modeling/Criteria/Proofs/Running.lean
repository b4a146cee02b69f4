import Criteria.Repository

/-!
# Runs of steps that may fail

Builders, queries and sessions all change by steps of one kind: a step may fail, and what it changed
before is kept. `runFrom` gives the outcome of a step with the state it leaves, and one equation for each
way of making steps takes a run apart. Reporting events succeeds and changes nothing but the trace.
-/

namespace Criteria

variable {σ ε ε' α β : Type}

/-! ## Outcomes -/

theorem map_eq_ok {x : Except ε α} {f : α → β} {b : β} :
    x.map f = .ok b ↔ ∃ a, x = .ok a ∧ f a = b := by
  cases x <;> simp [Except.map]

theorem mapError_eq_ok {x : Except ε α} {f : ε → ε'} {a : α} : x.mapError f = .ok a ↔ x = .ok a := by
  cases x with
  | error e =>
      constructor
      · rintro ⟨⟩
      · rintro ⟨⟩
  | ok b =>
      constructor
      · rintro ⟨⟩
        rfl
      · rintro ⟨⟩
        rfl

theorem bind_eq_ok {x : Except ε α} {f : α → Except ε β} {b : β} :
    x >>= f = .ok b ↔ ∃ a, x = .ok a ∧ f a = .ok b := by
  cases x <;> simp [bind, Except.bind]

theorem bind_eq_error {x : Except Fault α} {f : α → Except Fault β} {fault : Fault} :
    x >>= f = .error fault ↔ x = .error fault ∨ ∃ a, x = .ok a ∧ f a = .error fault := by
  cases x <;> simp [bind, Except.bind]

/-- A traversal fails with the fault of an element. -/
theorem mapM_eq_error {f : α → Except Fault β} {as : List α} {fault : Fault}
    (h : as.mapM f = .error fault) : ∃ a ∈ as, f a = .error fault := by
  induction as with
  | nil => cases h
  | cons a rest ih =>
      rw [List.mapM_cons] at h
      rcases bind_eq_error.mp h with ha | ⟨b, -, h⟩
      · exact ⟨a, List.mem_cons_self, ha⟩
      · rcases bind_eq_error.mp h with hrest | ⟨bs, -, h⟩
        · obtain ⟨x, hx, hfault⟩ := ih hrest
          exact ⟨x, List.mem_cons_of_mem _ hx, hfault⟩
        · cases h

/-- Going through a list succeeds if every single step does. -/
theorem exists_mapM_iff {f : α → Except Fault β} {as : List α} :
    (∃ bs, as.mapM f = .ok bs) ↔ ∀ a ∈ as, ∃ b, f a = .ok b := by
  constructor
  · rintro ⟨bs, h⟩
    induction as generalizing bs with
    | nil => simp
    | cons a rest ih =>
        rw [List.mapM_cons] at h
        obtain ⟨b, hb, h⟩ := bind_eq_ok.mp h
        obtain ⟨others, hothers, -⟩ := bind_eq_ok.mp h
        exact List.forall_mem_cons.mpr ⟨⟨b, hb⟩, ih others hothers⟩
  · intro h
    cases hall : as.mapM f with
    | ok bs => exact ⟨bs, rfl⟩
    | error fault =>
        obtain ⟨a, ha, hfault⟩ := mapM_eq_error hall
        obtain ⟨b, hb⟩ := h a ha
        rw [hb] at hfault
        cases hfault

theorem mem_of_mapM_eq_ok {f : α → Except ε β} {as : List α} {bs : List β} {b : β}
    (h : as.mapM f = .ok bs) (hb : b ∈ bs) : ∃ a ∈ as, f a = .ok b := by
  induction as generalizing bs with
  | nil =>
      cases h
      cases hb
  | cons a rest ih =>
      rw [List.mapM_cons] at h
      obtain ⟨first, hfirst, h⟩ := bind_eq_ok.mp h
      obtain ⟨others, hothers, h⟩ := bind_eq_ok.mp h
      cases h
      rcases List.mem_cons.mp hb with rfl | hb
      · exact ⟨a, List.mem_cons_self, hfirst⟩
      · obtain ⟨x, hx, hfx⟩ := ih hothers hb
        exact ⟨x, List.mem_cons_of_mem _ hx, hfx⟩

theorem mapM_eq_map {f : α → Except ε β} {g : α → β} {as : List α} (h : ∀ a ∈ as, f a = .ok (g a)) :
    as.mapM f = .ok (as.map g) := by
  induction as with
  | nil => rfl
  | cons a rest ih =>
      rw [List.mapM_cons, h a List.mem_cons_self, ih fun x hx => h x (List.mem_cons_of_mem _ hx)]
      rfl

/-! ## Runs -/

/-- The outcome of a step from a state, and the state it leaves. -/
def runFrom (s : σ) (step : ExceptT Fault (StateM σ) α) : Except Fault α × σ :=
  StateT.run (ExceptT.run step) s

@[simp] theorem runFrom_pure (s : σ) (a : α) :
    runFrom s (pure a : ExceptT Fault (StateM σ) α) = (.ok a, s) := rfl

@[simp] theorem runFrom_throw (s : σ) (f : Fault) :
    runFrom s (throw f : ExceptT Fault (StateM σ) α) = (.error f, s) := rfl

@[simp] theorem runFrom_get (s : σ) :
    runFrom s (get : ExceptT Fault (StateM σ) σ) = (.ok s, s) := rfl

@[simp] theorem runFrom_modify (s : σ) (f : σ → σ) :
    runFrom s (modify f : ExceptT Fault (StateM σ) Unit) = (.ok (), f s) := rfl

/-- A sequence goes on from the state of its first step, or fails with it. -/
theorem runFrom_bind (s : σ) (step : ExceptT Fault (StateM σ) α)
    (next : α → ExceptT Fault (StateM σ) β) :
    runFrom s (step >>= next) =
      match runFrom s step with
      | (.ok a, t) => runFrom t (next a)
      | (.error f, t) => (.error f, t) := by
  simp only [runFrom, StateT.run, ExceptT.run, bind, ExceptT.bind, ExceptT.mk, StateT.bind]
  rcases step s with ⟨f | a, t⟩ <;> rfl

theorem runFrom_bind_ok {s t : σ} {step : ExceptT Fault (StateM σ) α}
    {next : α → ExceptT Fault (StateM σ) β} {a : α} (h : runFrom s step = (.ok a, t)) :
    runFrom s (step >>= next) = runFrom t (next a) := by
  rw [runFrom_bind, h]

/-! ## Two runs -/

/-- Runs of one outcome that leave related states. -/
def RunsAlike (R : σ → σ → Prop) (x y : Except Fault α × σ) : Prop := x.1 = y.1 ∧ R x.2 y.2

theorem RunsAlike.cases {R : σ → σ → Prop} {x y : Except Fault α × σ} (h : RunsAlike R x y) :
    ∃ outcome s t, x = (outcome, s) ∧ y = (outcome, t) ∧ R s t :=
  ⟨x.1, x.2, y.2, rfl, Prod.ext h.1.symm rfl, h.2⟩

/-- Sequences are alike if their first steps are and the others keep the relation. -/
theorem RunsAlike.bind {R : σ → σ → Prop} {s t : σ} {step step' : ExceptT Fault (StateM σ) α}
    {next next' : α → ExceptT Fault (StateM σ) β} (h : RunsAlike R (runFrom s step) (runFrom t step'))
    (hnext : ∀ a s t, R s t → RunsAlike R (runFrom s (next a)) (runFrom t (next' a))) :
    RunsAlike R (runFrom s (step >>= next)) (runFrom t (step' >>= next')) := by
  obtain ⟨outcome, s', t', hs, ht, hstates⟩ := h.cases
  rw [runFrom_bind, runFrom_bind, hs, ht]
  cases outcome with
  | error f => exact ⟨rfl, hstates⟩
  | ok a => exact hnext a s' t' hstates

/-! ## Steps of builders -/

namespace Builder

def changed (b : Builder) (f : Statement → Statement) : Builder := { b with statement := f b.statement }

@[simp] theorem run_change (b : Builder) (f : Statement → Statement) :
    runFrom b (change f) = (.ok (), b.changed f) := rfl

@[simp] theorem run_ask (b : Builder) (question : Builder → Except Fault α) :
    runFrom b (ask question) = (question b, b) := by
  show runFrom b (get >>= _) = _
  rw [runFrom_bind]
  cases h : question b <;> simp [h]

end Builder

/-- Builders with the same root, aliases and events, on statements related by `R`. -/
structure Builder.Alike (R : Statement → Statement → Prop) (b c : Builder) : Prop where
  rest : c = { b with statement := c.statement }
  statement : R b.statement c.statement

theorem Builder.alike_refl {R : Statement → Statement → Prop} (hR : ∀ s, R s s) (b : Builder) :
    b.Alike R b := ⟨rfl, hR b.statement⟩

/-! ## Reports in sessions -/

namespace Session

@[simp] theorem run_report (s : Session) (e : Event) :
    runFrom s (report e) = (.ok (), { s with trace := s.trace ++ [e] }) := rfl

/-- Reporting several events adds them to the trace in order. -/
theorem run_reportAll (s : Session) (events : List Event) :
    runFrom s (forIn events PUnit.unit fun e _ => do
      report e
      pure (ForInStep.yield PUnit.unit)) =
      (.ok PUnit.unit, { s with trace := s.trace ++ events }) := by
  induction events generalizing s with
  | nil => simp
  | cons e rest ih =>
      rw [List.forIn_cons, bind_assoc, runFrom_bind_ok (run_report s e)]
      simp only [pure_bind]
      rw [ih]
      simp

end Session
end Criteria
