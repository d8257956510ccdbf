import GridRules.Options.Execute
/-!
Runs in general: their laws, what their steps call and come to, and runs that call nobody or warn of
nothing.
-/

namespace GridRules

namespace Run

variable {α β γ : Type}

theorem pure_andThen (a : α) (next : α → Run β) : (done a).andThen next = next a := by
  simp [done, andThen]

theorem andThen_assoc (run : Run α) (f : α → Run β) (g : β → Run γ) :
    (run.andThen f).andThen g = run.andThen fun a => (f a).andThen g := by
  obtain ⟨result, warnings, calls, events⟩ := run
  cases result with
  | error e => rfl
  | ok a => cases h : (f a).result <;> simp [andThen, h]

theorem map_id (run : Run α) : id <$> run = run := by
  obtain ⟨result, warnings, calls, events⟩ := run
  cases result <;> simp [Functor.map, andThen, done]

instance : LawfulMonad Run :=
  LawfulMonad.mk' Run map_id pure_andThen andThen_assoc

theorem ofExcept_ok (a : α) : ofExcept (.ok a) = pure a :=
  rfl

theorem ofExcept_bind (x : Except Fault α) (next : α → Except Fault β) :
    ofExcept (x >>= next) = ofExcept x >>= fun a => ofExcept (next a) := by
  cases x with
  | error f => rfl
  | ok a => exact (pure_andThen a fun a => ofExcept (next a)).symm

theorem result_andThen {run : Run α} {a : α} (h : run.result = .ok a) (next : α → Run β) :
    (run.andThen next).result = (next a).result := by
  simp only [andThen, h]

theorem andThen_eq_ok {run : Run α} {next : α → Run β} {b : β}
    (h : (run.andThen next).result = .ok b) :
    ∃ a, run.result = .ok a ∧ (next a).result = .ok b := by
  cases hr : run.result with
  | error e => simp [andThen, hr] at h
  | ok a => exact ⟨a, rfl, result_andThen hr next ▸ h⟩

end Run

/-- The run calls nobody. -/
def Run.Silent {α : Type} (run : Run α) : Prop :=
  run.calls = []

namespace Run.Silent

variable {α β : Type} {run : Run α}

theorem pure (a : α) : Silent (Pure.pure a : Run α) := rfl

theorem ofExcept (result : Except Fault α) : Silent (Run.ofExcept result) := by
  cases result <;> rfl

theorem bind {next : α → Run β} (h : Silent run) (hnext : ∀ a, Silent (next a)) :
    Silent (run >>= next) := by
  change (run.andThen next).calls = []
  unfold andThen
  cases run.result with
  | error e => exact h
  | ok a => exact List.append_eq_nil_iff.mpr ⟨h, hnext a⟩

end Run.Silent

namespace Run

variable {α β : Type}

theorem calls_bind (run : Run α) (next : α → Run β) :
    (run >>= next).calls = run.calls ++
      match run.result with
      | .ok a => (next a).calls
      | .error _ => [] := by
  change (run.andThen next).calls = _
  unfold andThen
  cases run.result with
  | error e => exact (List.append_nil _).symm
  | ok a => rfl

theorem result_bind (run : Run α) (next : α → Run β) :
    (run >>= next).result =
      match run.result with
      | .ok a => (next a).result
      | .error e => .error e := by
  change (run.andThen next).result = _
  unfold andThen
  cases run.result <;> rfl

theorem calls_bind_of_silent {run : Run α} {next : α → Run β} (h : ∀ a, Silent (next a)) :
    (run >>= next).calls = run.calls := by
  rw [calls_bind]
  cases run.result with
  | error e => exact List.append_nil _
  | ok a => exact (congrArg (run.calls ++ ·) (h a)).trans (List.append_nil _)

theorem calls_call_bind (c : Call) {next : Unit → Run β} (h : ∀ a, Silent (next a)) :
    (call c >>= next).calls = [c] :=
  calls_bind_of_silent h

/-- The run comes to a result and warns of nothing. -/
def Clean (run : Run α) (a : α) : Prop :=
  run.result = .ok a ∧ run.warnings = []

theorem clean_pure_iff {a b : α} : (pure a : Run α).Clean b ↔ a = b :=
  ⟨fun h => Except.ok.inj h.1, fun h => h ▸ ⟨rfl, rfl⟩⟩

/-- A run is clean if its steps are. -/
theorem clean_bind_iff {run : Run α} {next : α → Run β} {b : β} :
    (run >>= next).Clean b ↔ ∃ a, run.Clean a ∧ (next a).Clean b := by
  obtain ⟨result, warnings, calls, events⟩ := run
  change (andThen _ next).Clean b ↔ _
  unfold andThen Clean
  cases result with
  | error e => simp
  | ok a =>
    simp only [List.append_eq_nil_iff, Except.ok.injEq]
    exact ⟨fun ⟨hb, hfirst, hrest⟩ => ⟨a, ⟨rfl, hfirst⟩, hb, hrest⟩, by
      rintro ⟨_, ⟨rfl, hfirst⟩, hb, hrest⟩
      exact ⟨hb, hfirst, hrest⟩⟩

theorem clean_ofExcept_iff {result : Except Fault α} {a : α} :
    (ofExcept result).Clean a ↔ result = .ok a := by
  cases result with
  | error fault => exact iff_of_false (fun h => nomatch h.1) nofun
  | ok b => exact clean_pure_iff.trans ⟨congrArg _, Except.ok.inj⟩

theorem not_clean_warn {w : String} {a : Unit} : ¬ (warn w).Clean a :=
  fun h => nomatch h.2

theorem not_clean_warn_bind {w : String} {next : Unit → Run β} {b : β} :
    ¬ (warn w >>= next).Clean b := fun h => by
  obtain ⟨_, hwarn, -⟩ := clean_bind_iff.mp h
  exact not_clean_warn hwarn

end Run

end GridRules
