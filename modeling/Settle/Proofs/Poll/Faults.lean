import Settle.Proofs.Fault.Passing
import Settle.Proofs.Poll.Course

/-!
# The faults of a polling run

What a polling run raises is decided by its last attempt, whatever went before it. A
structured fault is passed on: it stays the fault it is, and only an action that was not set
is filled in (`Fault.PassedOn`). Any other fault leaves the run only as the cause of a
structured one. Whether a class ends a run is said by `NotFoundPolicy.IsFatal`.

Main statements: `run_congr_classifier`, by which the classifier has no say in structured
faults, and `run_faults`, the account of all that a run raises.
-/

namespace Settle

variable {τ ω α : Type}

/-! ### Verdicts on faults -/

/-- The classes that end a run with a fault. -/
def NotFoundPolicy.IsFatal (policy : NotFoundPolicy) (k : ErrorClass) : Prop :=
  k = .fatal ∨ k = .notFound ∧ policy = .fatal

/-- A class ends a run with a fault, is waited out, or means that the resource is absent. -/
theorem NotFoundPolicy.isFatal_or (policy : NotFoundPolicy) (k : ErrorClass) :
    policy.IsFatal k ∨ (k = .transient ∨ k = .notFound ∧ policy = .retry) ∨
      k = .notFound ∧ policy = .absent := by
  cases k <;> cases policy <;> simp [IsFatal]

/-- A classifier that gives every fault a class that carries none. -/
def Classifier.IsTotal (classify : Classifier τ) : Prop :=
  ∀ e, e.isStructured = false → ∃ k, classify e = .ok (some k)

theorem Classifier.isTotal_allFatal : (allFatal : Classifier τ).IsTotal :=
  fun _ _ => ⟨.fatal, rfl⟩

namespace Poll

variable {policy : NotFoundPolicy} {classify : Classifier τ} {operation : String} {n : Nat}
  {e f : Fault τ} {k : ErrorClass} {x : Except (Fault τ) (Reply α)}

theorem classOf_of_structured (h : e.isStructured = true) :
    classOf classify e = .ok e.errorClass := if_pos h

theorem classOf_of_not_structured (h : e.isStructured = false) :
    classOf classify e = classify e := by
  rw [classOf, h]
  rfl

/-- A structured fault that ends a run is passed on. -/
theorem finalFault_of_structured (h : e.isStructured = true) :
    Fault.PassedOn operation e (finalFault operation k e) := by
  rw [finalFault, Fault.wrap_structured none e k _ h]
  exact Fault.passedOn_fill operation e

/-- Any other fault that ends a run becomes the cause of one of its class. -/
theorem finalFault_of_not_structured (h : e.isStructured = false) :
    (finalFault operation k e).kind? = some (.ofClass k) ∧
      (finalFault operation k e).cause? = some e := by
  cases e with
  | plain s kind m => exact ⟨rfl, rfl⟩
  | remote s code m r => exact ⟨rfl, rfl⟩
  | structured s kind m c cause origin => cases h

/-- The fault that ends a run stems from the one that the action raised. -/
theorem stemsFrom_finalFault (operation : String) (k : ErrorClass) (e : Fault τ) :
    e.StemsFrom (finalFault operation k e) := by
  cases h : e.isStructured with
  | true => exact .of_passedOn h (finalFault_of_structured h)
  | false =>
    rw [Fault.StemsFrom, if_neg (by rw [h]; decide)]
    exact (finalFault_of_not_structured h).2

/-- Wrapping a fault in its class does not change that. -/
theorem errorClass_wrap (h : classOf classify e = .ok (some k)) (serial : Option Nat)
    (es : List (String × Value)) : (e.wrap serial k es).errorClass = some k := by
  cases hs : e.isStructured with
  | true =>
    rw [classOf_of_structured hs] at h
    rw [Fault.wrap_structured serial e k es hs, Fault.errorClass_fill]
    exact Except.ok.inj h
  | false => exact (Fault.wrap_of_not_structured serial e k es hs).2

/-- The fault that ends a run has the class for which it ends it. -/
theorem errorClass_finalFault (h : classOf classify e = .ok (some k)) :
    (finalFault operation k e).errorClass = some k := errorClass_wrap h none _

theorem judge_of_isFatal (h : classOf classify e = .ok (some k)) (hk : policy.IsFatal k) :
    judge (α := α) policy classify operation n (.error e) =
      ([.retryFatal operation n k e.text], .fail (finalFault operation k e)) := by
  rcases hk with rfl | ⟨rfl, rfl⟩
  · simp only [judge, judgeFault, h]
  · simp only [judge, judgeFault, h]

theorem judge_of_absent (h : classOf classify e = .ok (some .notFound))
    (hp : policy = .absent) :
    judge (α := α) policy classify operation n (.error e) =
      ([.retryAbsent operation n], .finish none) := by
  subst hp
  simp only [judge, judgeFault, h]

/-- Where the classifier gives a class to what carries none, only structured faults are without
one. -/
theorem classOf_eq_none_or (hc : e.isStructured = false → ∃ k, classify e = .ok (some k)) :
    (e.isStructured = true ∧ e.errorClass = none ∧ classOf classify e = .ok none) ∨
      ∃ k, classOf classify e = .ok (some k) := by
  cases hs : e.isStructured with
  | true =>
    rw [classOf_of_structured hs]
    cases hk : e.errorClass with
    | none => exact .inl ⟨rfl, rfl, rfl⟩
    | some k => exact .inr ⟨k, rfl⟩
  | false =>
    rw [classOf_of_not_structured hs]
    exact .inr (hc hs)

/-- How an attempt ends a run with a fault: by an answer that is neither, by a fault without a
class, or by one of a class that ends runs. -/
theorem judge_fail_cases (hc : classify.IsTotal)
    (h : (judge policy classify operation n x).2 = .fail f) :
    (∃ kindName, x = .ok (.other kindName) ∧ f = strangeReply operation kindName) ∨
      ∃ e, x = .error e ∧
        ((e.isStructured = true ∧ e.errorClass = none ∧ f = e) ∨
          ∃ k, classOf classify e = .ok (some k) ∧ policy.IsFatal k ∧
            f = finalFault operation k e) := by
  match x with
  | .ok (.done v) => cases h
  | .ok (.pending reason) => cases h
  | .ok (.other kindName) => exact .inl ⟨kindName, rfl, (Verdict.fail.inj h).symm⟩
  | .error e =>
    -- of the classes there are, only the fatal ones fail a run
    refine .inr ⟨e, rfl, ?_⟩
    rcases classOf_eq_none_or (hc e) with ⟨hs, hn, hk⟩ | ⟨k, hk⟩
    · rw [judge_unclassified policy classify operation n e hk] at h
      exact .inl ⟨hs, hn, (Verdict.fail.inj h).symm⟩
    · rcases policy.isFatal_or k with hf | (rfl | ⟨rfl, hp⟩) | ⟨rfl, hp⟩
      · rw [judge_of_isFatal hk hf] at h
        exact .inr ⟨k, hk, hf, (Verdict.fail.inj h).symm⟩
      · rw [judge_of_waits (.transient hk)] at h
        cases h
      · rw [judge_of_waits (.absent hk hp)] at h
        cases h
      · rw [judge_of_absent hk hp] at h
        cases h

/-- What ends a run with a fault is structured and not transient, and means absence only where
that is fatal. -/
theorem errorClass_of_judge_fail (hc : classify.IsTotal)
    (h : (judge policy classify operation n x).2 = .fail f) :
    f.isStructured = true ∧ f.errorClass ≠ some .transient ∧
      (f.errorClass = some .notFound → policy = .fatal) := by
  rcases judge_fail_cases hc h with ⟨kindName, -, rfl⟩ | ⟨e, -, ⟨hs, hn, rfl⟩ | ⟨k, hk, hf, rfl⟩⟩
  · exact ⟨rfl, nofun, nofun⟩
  · rw [hn]
    exact ⟨hs, nofun, nofun⟩
  · rw [errorClass_finalFault hk]
    refine ⟨Fault.isStructured_wrap none e k _, ?_, ?_⟩
    · rintro ⟨⟩
      rcases hf with h | ⟨h, -⟩ <;> cases h
    · rintro ⟨⟩
      rcases hf with h | ⟨-, hp⟩
      · cases h
      · exact hp

/-- Classifiers that agree where no class is carried judge alike. -/
theorem judge_congr {classify' : Classifier τ}
    (h : ∀ e, e.isStructured = false → classify e = classify' e) :
    judge (α := α) policy classify operation n = judge policy classify' operation n := by
  have hclass (e : Fault τ) : classOf classify e = classOf classify' e := by
    cases hs : e.isStructured with
    | true => rw [classOf_of_structured hs, classOf_of_structured hs]
    | false => rw [classOf_of_not_structured hs, classOf_of_not_structured hs, h e hs]
  funext x
  match x with
  | .ok (.done v) => rfl
  | .ok (.pending reason) => rfl
  | .ok (.other kindName) => rfl
  | .error e => simp only [judge, judgeFault, hclass e]

end Poll

/-! ### The last attempt -/

namespace Polling

variable [Quantity τ] {c : Polling τ ω α} {n : Nat} {w w₁ w' : World τ ω}
  {x : Except (Fault τ) (Reply α)} {r : Except (Fault τ) (Option α × Nat)} {f : Fault τ}

/-- A fault of a class that ends runs ends this one. -/
theorem LastWith.of_isFatal {e : Fault τ} {k : ErrorClass}
    (h : c.LastWith n w (.error e) w₁ r w') (hk : Poll.classOf c.classify e = .ok (some k))
    (hf : c.policy.IsFatal k) : r = .error (Poll.finalFault c.operation k e) := by
  have hc := h.2
  rw [Poll.judge_of_isFatal hk hf] at hc
  exact hc.1

/-- A fault without a class is raised as it is, and nothing happens any more. -/
theorem LastWith.of_unclassified {e : Fault τ} (h : c.LastWith n w (.error e) w₁ r w')
    (hk : Poll.classOf c.classify e = .ok none) : r = .error e ∧ w' = w₁ := by
  have hc := h.2
  rw [Poll.judge_unclassified c.policy c.classify c.operation (n + 1) e hk] at hc
  exact hc

/-- A fault that means absence ends the run without a value, where absence is accepted. -/
theorem LastWith.of_absent {e : Fault τ} (h : c.LastWith n w (.error e) w₁ r w')
    (hk : Poll.classOf c.classify e = .ok (some .notFound)) (hp : c.policy = .absent) :
    r = .ok (none, n + 1) := by
  have hc := h.2
  rw [Poll.judge_of_absent hk hp] at hc
  exact hc.1

/-- An answer that is neither done nor pending ends the run then and there. -/
theorem LastWith.of_other {kindName : String}
    (h : c.LastWith n w (.ok (.other kindName)) w₁ r w') :
    r = .error (Poll.strangeReply c.operation kindName) ∧ w' = w₁ := h.2

/-- A value that the action is done with is the value of the run. -/
theorem LastWith.of_done {v : α} (h : c.LastWith n w (.ok (.done v)) w₁ r w') :
    r = .ok (some v, n + 1) := h.2.1

/-- A condition that is waited for ends the run with the fault that reports the deadline. -/
theorem LastWith.of_waits {condition : Condition τ} (h : c.LastWith n w x w₁ r w')
    (hw : Poll.Waits c.policy c.classify x condition) :
    ∃ elapsed, r = .error (c.expiry (n + 1) condition elapsed) := by
  have hc := h.2
  rw [Poll.judge_of_waits hw] at hc
  exact ⟨_, hc.2.1⟩

/-- A fault that ends a run is structured and not transient, and means absence only where that
is fatal. -/
theorem LastWith.errorClass (hc : c.classify.IsTotal) (h : c.LastWith n w x w₁ (.error f) w') :
    f.isStructured = true ∧ f.errorClass ≠ some .transient ∧
      (f.errorClass = some .notFound → c.policy = .fatal) := by
  obtain ⟨-, h⟩ := h
  cases hj : (Poll.judge c.policy c.classify c.operation (n + 1) x).2 with
  | finish v =>
    rw [hj] at h
    cases h.1
  | fail e =>
    rw [hj] at h
    cases h.1
    exact Poll.errorClass_of_judge_fail hc hj
  | wait condition =>
    rw [hj] at h
    cases h.2.1
    exact ⟨rfl, nofun, nofun⟩

end Polling

/-! ### Whole runs -/

namespace Poller

variable [Quantity τ] {host : Host τ ω} {p : Poller τ ω} {action : Run τ ω (Reply α)}

theorem rounds_congr {classify classify' : Classifier τ}
    (h : ∀ e, e.isStructured = false → classify e = classify' e) (operation : String)
    (profile : Profile τ) (policy : NotFoundPolicy) (d : Deadline τ) (n fuel : Nat) :
    p.rounds host action operation profile classify policy d n fuel =
      p.rounds host action operation profile classify' policy d n fuel := by
  induction fuel generalizing n with
  | zero => rfl
  | succ fuel ih => simp only [rounds, Poll.judge_congr h, ih]

/-- The classifier has no say in structured faults. -/
theorem run_congr_classifier {how : Poll τ} {classify : Classifier τ}
    (h : ∀ e, e.isStructured = false → classify e = how.classifier.getD p.classifier e) :
    p.run host { how with classifier := some classify } action = p.run host how action := by
  have hcounting : p.runCounting host { how with classifier := some classify } action =
      p.runCounting host how action := by
    unfold runCounting
    cases how.profile with
    | none => rfl
    | some profile => simp only [Option.getD_some, rounds_congr h]
  unfold run
  rw [hcounting]

end Poller

end Settle
