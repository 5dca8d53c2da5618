import Countersign.Proofs.Dialogue
import Mathlib

/-! Dialogues played against a node that keeps an invariant: what becomes of a composed dialogue is
read off its parts, one rule for each way to compose them. -/

namespace Countersign

variable {σ ε ε' α β : Type}

def Play.bind (p : Play σ ε α) (f : α → σ → Play σ ε β) : Play σ ε β :=
  match p.outcome with
  | .done a => { f a p.state with exchanges := p.exchanges ++ (f a p.state).exchanges }
  | .failed e => ⟨.failed e, p.exchanges, p.state⟩
  | .stalled => ⟨.stalled, p.exchanges, p.state⟩

/-- Queries leave the states in `P` within `P`. -/
def Node.Keeps (node : Node σ) (P : σ → Prop) : Prop :=
  ∀ s contract question, P s → P (node.answer s contract question).2

def Node.Tells (node : Node σ) (P : σ → Prop) (contract : String) (question : Json)
    (read : Json → Option α) (a : α) : Prop :=
  ∀ s, P s → ∃ v, (node.answer s contract question).1 = .ok v ∧ read v = some a

def Outcome.Gives (Q : α → Prop) (o : Outcome ε α) : Prop :=
  ∀ a, o = .done a → Q a

def Outcome.map (f : α → β) : Outcome ε α → Outcome ε β
  | .done a => .done (f a)
  | .failed e => .failed e
  | .stalled => .stalled

def Outcome.ofExcept : Except ε α → Outcome ε α
  | .ok a => .done a
  | .error e => .failed e

def Outcome.result? : Outcome ε α → Option α
  | .done a => some a
  | _ => none

theorem Outcome.eq_done {o : Outcome ε α} {a : α} (h : o.result? = some a) : o = .done a := by
  cases o with
  | done b => cases h; rfl
  | failed e => cases h
  | stalled => cases h

namespace Dialogue

variable {node : Node σ} {P : σ → Prop}

theorem play_bind (node : Node σ) (d : Dialogue ε α) (f : α → Dialogue ε β) (s : σ) :
    (d >>= f).play node s = (d.play node s).bind fun a s => (f a).play node s := by
  change (d.bind f).play node s = _
  induction d generalizing s with
  | done a => rfl
  | failed e => rfl
  | stalled => rfl
  | query contract question next ih =>
    simp only [Dialogue.bind, play, ih, Play.bind]
    split <;> rfl
  | submit messages next ih =>
    simp only [Dialogue.bind, play, ih, Play.bind]
    split <;> rfl

theorem play_mapError (node : Node σ) (d : Dialogue ε α) (f : ε → ε') (s : σ) :
    (d.mapError f).play node s =
      ⟨(d.play node s).outcome.mapError f, (d.play node s).exchanges, (d.play node s).state⟩ := by
  induction d generalizing s with
  | done a => rfl
  | failed e => rfl
  | stalled => rfl
  | query contract question next ih => simp only [mapError, play, ih]
  | submit messages next ih => simp only [mapError, play, ih]

/-- Played from any state in `P`, the dialogue leaves the node in `P` and ends as `Q` says. -/
def Meets (node : Node σ) (P : σ → Prop) (d : Dialogue ε α) (Q : Outcome ε α → Prop) : Prop :=
  ∀ s, P s → P (d.play node s).state ∧ Q (d.play node s).outcome

def Ends (node : Node σ) (P : σ → Prop) (d : Dialogue ε α) (o : Outcome ε α) : Prop :=
  d.Meets node P (· = o)

theorem Meets.mono {d : Dialogue ε α} {Q R : Outcome ε α → Prop} (h : d.Meets node P Q)
    (hQ : ∀ o, Q o → R o) : d.Meets node P R :=
  fun s hs => ⟨(h s hs).1, hQ _ (h s hs).2⟩

theorem meets_done {Q : Outcome ε α → Prop} {a : α} (h : Q (.done a)) :
    (done a).Meets node P Q :=
  fun _ hs => ⟨hs, h⟩

theorem Meets.bind {d : Dialogue ε α} {f : α → Dialogue ε β} {Q : Outcome ε α → Prop}
    {R : Outcome ε β → Prop} (hd : d.Meets node P Q)
    (hdone : ∀ a, Q (.done a) → (f a).Meets node P R)
    (hfailed : ∀ e, Q (.failed e) → R (.failed e)) (hstalled : Q .stalled → R .stalled) :
    (d >>= f).Meets node P R := by
  intro s hs
  obtain ⟨hkept, hend⟩ := hd s hs
  rw [play_bind, Play.bind]
  cases ho : (d.play node s).outcome with
  | done a => exact hdone a (ho ▸ hend) _ hkept
  | failed e => exact ⟨hkept, hfailed e (ho ▸ hend)⟩
  | stalled => exact ⟨hkept, hstalled (ho ▸ hend)⟩

theorem Meets.mapError {d : Dialogue ε α} {f : ε → ε'} {Q : Outcome ε α → Prop}
    {R : Outcome ε' α → Prop} (h : d.Meets node P Q) (hQ : ∀ o, Q o → R (o.mapError f)) :
    (d.mapError f).Meets node P R := by
  intro s hs
  rw [play_mapError]
  exact ⟨(h s hs).1, hQ _ (h s hs).2⟩

theorem Ends.bind {d : Dialogue ε α} {f : α → Dialogue ε β} {a : α} {R : Outcome ε β → Prop}
    (hd : d.Ends node P (.done a)) (hf : (f a).Meets node P R) : (d >>= f).Meets node P R :=
  Meets.bind hd (fun _ h => Outcome.done.inj h ▸ hf) nofun nofun

theorem Ends.bind_stalled {d : Dialogue ε α} {f : α → Dialogue ε β}
    (hd : d.Ends node P .stalled) : (d >>= f).Ends node P .stalled :=
  Meets.bind hd nofun nofun fun _ => rfl

theorem Ends.bind_failed {d : Dialogue ε α} {f : α → Dialogue ε β} {e : ε}
    (hd : d.Ends node P (.failed e)) : (d >>= f).Ends node P (.failed e) :=
  Meets.bind hd nofun (fun _ h => congrArg _ (Outcome.failed.inj h)) nofun

theorem Ends.map {d : Dialogue ε α} {o : Outcome ε α} (hd : d.Ends node P o) (f : α → β) :
    (f <$> d).Ends node P (o.map f) :=
  Meets.bind hd (fun _ h => h ▸ meets_done rfl) (fun _ h => h ▸ rfl) fun h => h ▸ rfl

theorem Ends.unique {d : Dialogue ε α} {o o' : Outcome ε α} {s : σ} (h : d.Ends node P o)
    (h' : d.Ends node P o') (hs : P s) : o = o' :=
  (h s hs).2.symm.trans (h' s hs).2

theorem Ends.mapError {d : Dialogue ε α} {o : Outcome ε α} (hd : d.Ends node P o) (f : ε → ε') :
    (d.mapError f).Ends node P (o.mapError f) :=
  Meets.mapError hd fun _ h => congrArg _ h

theorem ends_done (a : α) : (done a : Dialogue ε α).Ends node P (.done a) :=
  meets_done rfl

theorem ends_ofExcept (r : Except ε α) : (ofExcept r).Ends node P (Outcome.ofExcept r) := by
  cases r with
  | ok a => exact ends_done a
  | error e => exact fun _ hs => ⟨hs, rfl⟩

theorem ends_ofExcept_ok (a : α) : (ofExcept (.ok a : Except ε α)).Ends node P (.done a) :=
  ends_ofExcept (.ok a)

theorem ends_ask {contract : String} {question : Json} {read : Json → Option α} {a : α}
    (hkeeps : node.Keeps P) (h : node.Tells P contract question read a) :
    (ask contract question read).Ends node P (.done a) := by
  intro s hs
  obtain ⟨v, hv, hread⟩ := h s hs
  simp only [ask, play, hv, hread, and_true]
  exact hkeeps s contract question hs

/-- A dialogue that only asks leaves alone what queries leave alone. -/
theorem AsksOnly.meets {d : Dialogue ε α} (hd : d.AsksOnly) (hkeeps : node.Keeps P) :
    d.Meets node P fun _ => True := by
  intro s hs
  refine ⟨?_, trivial⟩
  induction d generalizing s with
  | done a => exact hs
  | failed e => exact hs
  | stalled => exact hs
  | query contract question next ih => exact ih _ (hd _) _ (hkeeps s contract question hs)
  | submit messages next ih => exact hd.elim

theorem AsksOnly.meets_of_runs {d : Dialogue ε α} (hd : d.AsksOnly) (hkeeps : node.Keeps P)
    {Q : Outcome ε α → Prop} (h : ∀ es o, Runs d es o → Q o) : d.Meets node P Q :=
  fun s hs => ⟨(hd.meets hkeeps s hs).1, h _ _ (runs_play node d s)⟩

/-! ### Results, where there are any -/

theorem Meets.bind_gives {d : Dialogue ε α} {f : α → Dialogue ε β} {Q : α → Prop} {R : β → Prop}
    (hd : d.Meets node P (·.Gives Q)) (hf : ∀ a, Q a → (f a).Meets node P (·.Gives R)) :
    (d >>= f).Meets node P (·.Gives R) :=
  hd.bind (fun a h => hf a (h a rfl)) nofun nofun

theorem gives_ask {contract : String} {question : Json} {read : Json → Option α} {Q : α → Prop}
    (hkeeps : node.Keeps P) (h : ∀ s, P s → ∀ v a, (node.answer s contract question).1 = .ok v →
      read v = some a → Q a) :
    (ask contract question read).Meets node P (·.Gives Q) := by
  refine fun s hs => ⟨((asksOnly_ask _ _ _).meets hkeeps s hs).1, fun a ha => ?_⟩
  simp only [ask, play] at ha
  cases hreply : (node.answer s contract question).1 with
  | error e => rw [hreply] at ha; cases ha
  | ok v =>
    cases hread : read v with
    | none => simp only [hreply, hread, play] at ha; cases ha
    | some b =>
      simp only [hreply, hread, play] at ha
      exact Outcome.done.inj ha ▸ h s hs v b hreply hread

theorem Meets.gives_mapError {d : Dialogue ε α} {f : ε → ε'} {Q : α → Prop}
    (h : d.Meets node P (·.Gives Q)) : (d.mapError f).Meets node P (·.Gives Q) := by
  refine h.mapError fun o ho a ha => ?_
  cases o with
  | done b => exact ho a (congrArg _ (Outcome.done.inj ha))
  | failed e => cases ha
  | stalled => cases ha

theorem AsksOnly.gives {d : Dialogue ε α} (hd : d.AsksOnly) (hkeeps : node.Keeps P)
    {Q : α → Prop} (h : ∀ es a, Runs d es (.done a) → Q a) : d.Meets node P (·.Gives Q) :=
  hd.meets_of_runs hkeeps fun es _ hrun a ha => h es a (ha ▸ hrun)

theorem AsksOnly.bind_gives {d : Dialogue ε α} {f : α → Dialogue ε β} {R : β → Prop}
    (hd : d.AsksOnly) (hkeeps : node.Keeps P) (hf : ∀ a, (f a).Meets node P (·.Gives R)) :
    (d >>= f).Meets node P (·.Gives R) :=
  (hd.gives hkeeps (Q := fun _ => True) fun _ _ _ => trivial).bind_gives fun a _ => hf a

end Dialogue
end Countersign
