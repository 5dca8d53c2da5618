import Countersign.Node.Dialogue
import Mathlib

/-! Runs of a dialogue as lists of exchanges, whatever the node replies, and how a run of a composed
dialogue falls apart into runs of its parts. -/

namespace Countersign

def Exchange.isSubmission : Exchange → Bool
  | .query .. => false
  | .submission .. => true

def Outcome.mapError {ε ε' α : Type} (f : ε → ε') : Outcome ε α → Outcome ε' α
  | .done a => .done a
  | .failed e => .failed (f e)
  | .stalled => .stalled

namespace Dialogue

variable {ε ε' α β : Type}

instance : LawfulMonad (Dialogue ε) := by
  have map_id : ∀ {α : Type} (d : Dialogue ε α), id <$> d = d := fun d => by
    change d.bind (fun a => .done a) = d
    induction d with
    | done a => rfl
    | failed e => rfl
    | stalled => rfl
    | query contract question next ih => exact congrArg _ (funext ih)
    | submit messages next ih => exact congrArg _ (funext ih)
  have assoc : ∀ {α β γ : Type} (d : Dialogue ε α) (f : α → Dialogue ε β) (g : β → Dialogue ε γ),
      d >>= f >>= g = d >>= fun a => f a >>= g := fun d f g => by
    change (d.bind f).bind g = d.bind fun a => (f a).bind g
    induction d with
    | done a => rfl
    | failed e => rfl
    | stalled => rfl
    | query contract question next ih => exact congrArg _ (funext ih)
    | submit messages next ih => exact congrArg _ (funext ih)
  exact LawfulMonad.mk' _ map_id (fun _ _ => rfl) assoc

/-- With the replies recorded in `es`, and with no others, the dialogue ends in `o`. -/
inductive Runs : Dialogue ε α → List Exchange → Outcome ε α → Prop
  | done (a : α) : Runs (.done a) [] (.done a)
  | failed (e : ε) : Runs (.failed e) [] (.failed e)
  | stalled : Runs .stalled [] .stalled
  | query {contract question next reply es o} (rest : Runs (next reply) es o) :
      Runs (.query contract question next) (.query contract question reply :: es) o
  | submit {messages next reply es o} (rest : Runs (next reply) es o) :
      Runs (.submit messages next) (.submission messages reply :: es) o

theorem runs_play {σ : Type} (node : Node σ) (d : Dialogue ε α) (state : σ) :
    Runs d (d.play node state).exchanges (d.play node state).outcome := by
  induction d generalizing state with
  | done a => exact .done a
  | failed e => exact .failed e
  | stalled => exact .stalled
  | query contract question next ih => exact .query (ih _ _)
  | submit messages next ih => exact .submit (ih _ _)

theorem Runs.outcome_unique {d : Dialogue ε α} {es : List Exchange} {o o' : Outcome ε α}
    (h : Runs d es o) (h' : Runs d es o') : o = o' := by
  induction h with
  | done a => cases h'; rfl
  | failed e => cases h'; rfl
  | stalled => cases h'; rfl
  | query _ ih => cases h' with | query rest => exact ih rest
  | submit _ ih => cases h' with | submit rest => exact ih rest

theorem Runs.of_bind {d : Dialogue ε α} {f : α → Dialogue ε β} {es : List Exchange}
    {o : Outcome ε β} (h : Runs (d >>= f) es o) :
    (∃ a es₁ es₂, Runs d es₁ (.done a) ∧ Runs (f a) es₂ o ∧ es = es₁ ++ es₂) ∨
      (∃ e, Runs d es (.failed e) ∧ o = .failed e) ∨ (Runs d es .stalled ∧ o = .stalled) := by
  change Runs (d.bind f) es o at h
  induction d generalizing es with
  | done a => exact .inl ⟨a, [], es, .done a, h, rfl⟩
  | failed e => cases h; exact .inr (.inl ⟨e, .failed e, rfl⟩)
  | stalled => cases h; exact .inr (.inr ⟨.stalled, rfl⟩)
  | query contract question next ih =>
    cases h with
    | query rest =>
      obtain ⟨a, es₁, es₂, hd, hf, rfl⟩ | ⟨e, hd, rfl⟩ | ⟨hd, rfl⟩ := ih _ rest
      · exact .inl ⟨a, _, es₂, .query hd, hf, rfl⟩
      · exact .inr (.inl ⟨e, .query hd, rfl⟩)
      · exact .inr (.inr ⟨.query hd, rfl⟩)
  | submit messages next ih =>
    cases h with
    | submit rest =>
      obtain ⟨a, es₁, es₂, hd, hf, rfl⟩ | ⟨e, hd, rfl⟩ | ⟨hd, rfl⟩ := ih _ rest
      · exact .inl ⟨a, _, es₂, .submit hd, hf, rfl⟩
      · exact .inr (.inl ⟨e, .submit hd, rfl⟩)
      · exact .inr (.inr ⟨.submit hd, rfl⟩)

theorem Runs.bind_done {d : Dialogue ε α} {f : α → Dialogue ε β} {es : List Exchange} {b : β}
    (h : Runs (d >>= f) es (.done b)) :
    ∃ a es₁ es₂, Runs d es₁ (.done a) ∧ Runs (f a) es₂ (.done b) ∧ es = es₁ ++ es₂ := by
  obtain hd | ⟨e, -, ho⟩ | ⟨-, ho⟩ := h.of_bind
  · exact hd
  · cases ho
  · cases ho

theorem Runs.of_mapError {d : Dialogue ε α} {f : ε → ε'} {es : List Exchange} {o : Outcome ε' α}
    (h : Runs (d.mapError f) es o) : ∃ o', Runs d es o' ∧ o = o'.mapError f := by
  induction d generalizing es with
  | done a => cases h; exact ⟨_, .done a, rfl⟩
  | failed e => cases h; exact ⟨_, .failed e, rfl⟩
  | stalled => cases h; exact ⟨_, .stalled, rfl⟩
  | query contract question next ih =>
    cases h with
    | query rest =>
      obtain ⟨o', hd, rfl⟩ := ih _ rest
      exact ⟨o', .query hd, rfl⟩
  | submit messages next ih =>
    cases h with
    | submit rest =>
      obtain ⟨o', hd, rfl⟩ := ih _ rest
      exact ⟨o', .submit hd, rfl⟩

theorem Runs.mapError_done {d : Dialogue ε α} {f : ε → ε'} {es : List Exchange} {a : α}
    (h : Runs (d.mapError f) es (.done a)) : Runs d es (.done a) := by
  obtain ⟨o, hd, ho⟩ := h.of_mapError
  cases o with
  | done b => cases ho; exact hd
  | failed e => cases ho
  | stalled => cases ho

theorem Runs.of_part {d : Dialogue ε α} {f : ε → ε'} {g : α → Dialogue ε' β} {es : List Exchange}
    {o : Outcome ε' β} (h : Runs (d.mapError f >>= g) es o) :
    (∃ a es₁ es₂, Runs d es₁ (.done a) ∧ Runs (g a) es₂ o ∧ es = es₁ ++ es₂) ∨
      (∃ e, Runs d es (.failed e) ∧ o = .failed (f e)) ∨ (Runs d es .stalled ∧ o = .stalled) := by
  rcases h.of_bind with ⟨a, es₁, es₂, hd, hg, rfl⟩ | ⟨e, hd, rfl⟩ | ⟨hd, rfl⟩
  · exact .inl ⟨a, es₁, es₂, hd.mapError_done, hg, rfl⟩
  · obtain ⟨o, hpart, ho⟩ := hd.of_mapError
    cases o with
    | done a => cases ho
    | failed e => cases ho; exact .inr (.inl ⟨e, hpart, rfl⟩)
    | stalled => cases ho
  · obtain ⟨o, hpart, ho⟩ := hd.of_mapError
    cases o with
    | done a => cases ho
    | failed e => cases ho
    | stalled => exact .inr (.inr ⟨hpart, rfl⟩)

theorem Runs.pure_done {a b : α} {es : List Exchange}
    (h : Runs (pure a : Dialogue ε α) es (.done b)) : es = [] ∧ b = a := by
  cases h
  exact ⟨rfl, rfl⟩

theorem Runs.ofExcept_done {r : Except ε α} {es : List Exchange} {a : α}
    (h : Runs (ofExcept r) es (.done a)) : es = [] ∧ r = .ok a := by
  cases r with
  | ok b => cases h; exact ⟨rfl, rfl⟩
  | error e => cases h

theorem Runs.ofExcept_failed {r : Except ε α} {es : List Exchange} {e : ε}
    (h : Runs (ofExcept r) es (.failed e)) : es = [] ∧ r = .error e := by
  cases r with
  | ok b => cases h
  | error e => cases h; exact ⟨rfl, rfl⟩

theorem Runs.ask_done {contract : String} {question : Json} {read : Json → Option α}
    {es : List Exchange} {a : α} (h : Runs (ask contract question read) es (.done a)) :
    ∃ v, es = [.query contract question (.ok v)] ∧ read v = some a := by
  cases h with
  | @query _ _ _ reply _ _ rest =>
    cases reply with
    | error e => cases rest
    | ok v =>
      cases hv : read v with
      | none => simp only [hv] at rest; cases rest
      | some b => simp only [hv] at rest; cases rest; exact ⟨v, rfl, hv⟩

theorem runs_ask_ok {contract : String} {question : Json} {read : Json → Option α} {v : Json}
    {a : α} {f : QueryError → ε'} {g : α → Dialogue ε' β} {es : List Exchange} {o : Outcome ε' β}
    (hv : read v = some a) :
    Runs ((ask contract question read).mapError f >>= g)
      (.query contract question (.ok v) :: es) o ↔ Runs (g a) es o := by
  have hnext : ∀ next, ask contract question read = .query contract question next →
      ((next (.ok v)).mapError f).bind g = g a := by
    intro next hask
    cases hask
    simp only [hv]
    rfl
  constructor
  · intro h
    cases h with
    | query rest => exact hnext _ rfl ▸ rest
  · intro h
    exact .query (hnext _ rfl ▸ h)

/-! ### Errors -/

variable {E : ε → Prop}

def Errs (d : Dialogue ε α) (E : ε → Prop) : Prop :=
  ∀ es e, Runs d es (.failed e) → E e

theorem Errs.bind {d : Dialogue ε α} {f : α → Dialogue ε β} (hd : d.Errs E)
    (hf : ∀ es a, Runs d es (.done a) → (f a).Errs E) : (d >>= f).Errs E := by
  intro es e h
  rcases h.of_bind with ⟨a, es₁, es₂, hpart, hrest, -⟩ | ⟨e', hpart, ho⟩ | ⟨-, ho⟩
  · exact hf es₁ a hpart es₂ e hrest
  · cases ho
    exact hd es e hpart
  · cases ho

theorem errs_mapError {d : Dialogue ε α} {f : ε → ε'} {E : ε' → Prop} (hf : ∀ e, E (f e)) :
    (d.mapError f).Errs E := by
  intro es e h
  obtain ⟨o, -, ho⟩ := h.of_mapError
  cases o with
  | failed e' => cases ho; exact hf e'
  | _ => cases ho

theorem errs_done (a : α) : (Dialogue.done a : Dialogue ε α).Errs E := by
  intro es e h
  cases h

/-! ### Dialogues that submit nothing -/

def AsksOnly : Dialogue ε α → Prop
  | .query _ _ next => ∀ reply, AsksOnly (next reply)
  | .submit .. => False
  | _ => True

theorem AsksOnly.bind {d : Dialogue ε α} {f : α → Dialogue ε β} (hd : d.AsksOnly)
    (hf : ∀ a, (f a).AsksOnly) : (d >>= f).AsksOnly := by
  change (d.bind f).AsksOnly
  induction d with
  | done a => exact hf a
  | failed e => trivial
  | stalled => trivial
  | query contract question next ih => exact fun reply => ih reply (hd reply)
  | submit messages next ih => exact hd.elim

theorem AsksOnly.mapError {d : Dialogue ε α} {f : ε → ε'} (hd : d.AsksOnly) :
    (d.mapError f).AsksOnly := by
  induction d with
  | done a => trivial
  | failed e => trivial
  | stalled => trivial
  | query contract question next ih => exact fun reply => ih reply (hd reply)
  | submit messages next ih => exact hd.elim

theorem AsksOnly.map {d : Dialogue ε α} {f : α → β} (hd : d.AsksOnly) : (f <$> d).AsksOnly :=
  hd.bind fun _ => trivial

theorem asksOnly_ofExcept (r : Except ε α) : (ofExcept r).AsksOnly := by
  cases r <;> trivial

theorem asksOnly_ask (contract : String) (question : Json) (read : Json → Option α) :
    (ask contract question read).AsksOnly := by
  intro reply
  cases reply with
  | error e => trivial
  | ok v => dsimp only; split <;> trivial

theorem AsksOnly.no_submission {d : Dialogue ε α} {es : List Exchange} {o : Outcome ε α}
    (hd : d.AsksOnly) (h : Runs d es o) : ∀ e ∈ es, e.isSubmission = false := by
  induction h with
  | done a => simp
  | failed e => simp
  | stalled => simp
  | query rest ih => exact List.forall_mem_cons.2 ⟨rfl, ih (hd _)⟩
  | submit rest ih => exact hd.elim

end Dialogue
end Countersign
