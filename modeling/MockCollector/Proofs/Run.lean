/-!
# Runs of steps

A run takes one step after the other, and does not get through where a step cannot be taken.

* `run step? es s`     what the steps `es` make of `s`;
* `run_keeps`          what every step keeps, every run keeps;
* `run_keeps_of`       so does a run that is made of steps that do;
* `run_append`         a run may be made in two parts.
-/

namespace MockCollector

variable {S E : Type} {step? : S → E → Option S}

def run (step? : S → E → Option S) : List E → S → Option S
  | [], s => some s
  | e :: es, s => (step? s e).bind (run step? es)

theorem run_keeps_of {P : S → Prop} {es : List E}
    (keeps : ∀ e ∈ es, ∀ s t, P s → step? s e = some t → P t) {s t : S} (h : P s)
    (ran : run step? es s = some t) : P t := by
  induction es generalizing s with
  | nil =>
    cases ran
    exact h
  | cons e es ih =>
    obtain ⟨u, hu, ran⟩ := Option.bind_eq_some_iff.mp ran
    refine ih (fun f hf => keeps f (List.mem_cons_of_mem _ hf)) ?_ ran
    exact keeps e List.mem_cons_self s u h hu

theorem run_keeps {P : S → Prop} (keeps : ∀ e s t, P s → step? s e = some t → P t) {es : List E}
    {s t : S} (h : P s) (ran : run step? es s = some t) : P t :=
  run_keeps_of (fun e _ => keeps e) h ran

theorem run_append (es fs : List E) (s : S) :
    run step? (es ++ fs) s = (run step? es s).bind (run step? fs) := by
  induction es generalizing s with
  | nil => rfl
  | cons e es ih =>
    rw [List.cons_append, run, run, Option.bind_assoc]
    exact congrArg _ (funext ih)

end MockCollector
