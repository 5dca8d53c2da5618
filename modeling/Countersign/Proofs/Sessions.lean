import Countersign.Feed.Consumer
import Countersign.Proofs.History
import Mathlib

/-! Whatever a consumer goes through, connecting, losing streams and waiting included, its hub is only
acted on from outside and handed batches; and it goes through it one move at a time. -/

namespace Countersign.Feed

variable {β : Type} {react : Behaviour β}

def Input.act? : Input β → Option (Act β)
  | .subscribe contract callback => some (.subscribe contract callback)
  | .cancel id => some (.cancel id)
  | .destroy => some .close
  | _ => none

def Doing.act? : Doing β → Option (Act β)
  | .act a => some a
  | .batch _ => none

namespace Consumer

def opened (v : Consumer β) : Consumer β :=
  { v with attempts := v.attempts ++ [v.now], phase := .live false, sourceOpen := true }

/-! ### What is done to the hub -/

def itemDoings (c : Consumer β) (item : Item) : List (Doing β) :=
  match c.phase, item with
  | .live _, .ok batch => [.batch batch]
  | _, _ => []

def itemsDoings (react : Behaviour β) : Consumer β → List Item → List (Doing β)
  | _, [] => []
  | c, item :: items => c.itemDoings item ++ itemsDoings react (c.receive react item) items

def openingDoings (react : Behaviour β) (c : Consumer β) : Opening → List (Doing β)
  | .refused => []
  | .stream items _ => itemsDoings react c.opened items

def reconnectDoings (react : Behaviour β) (limit : ℕ) :
    List Opening → Consumer β → List (Doing β)
  | plan, c =>
    match c.due? limit, plan with
    | none, _ => []
    | some _, [] => []
    | some due, opening :: rest =>
      openingDoings react { c with now := due } opening ++
        reconnectDoings react limit rest ({ c with now := due }.connect react opening)

def settleDoings (react : Behaviour β) (c : Consumer β) : List (Doing β) :=
  reconnectDoings react c.now c.plan c

def stepDoings (react : Behaviour β) (c : Consumer β) : Input β → List (Doing β)
  | .subscribe contract callback => [.act (.subscribe contract callback)]
  | .cancel id => [.act (.cancel id)]
  | .destroy => [.act .close]
  | .expect _ => []
  | .start =>
    match c.phase with
    | .idle => settleDoings react { c with phase := .waiting c.now }
    | _ => []
  | .push item =>
    c.itemDoings item ++ settleDoings react (match item with
      | .ok _ => (c.receive react item).halt
      | .error _ => (c.receive react item).finish)
  | .endStream => settleDoings react c.finish
  | .pass time => reconnectDoings react (c.now + time) c.plan c

def doings (react : Behaviour β) : Consumer β → List (Input β) → List (Doing β)
  | _, [] => []
  | c, input :: inputs => c.stepDoings react input ++ doings react (c.step react input) inputs

/-! ### One move at a time -/

/-- Everything that can happen to a consumer, and what it does to the hub. -/
inductive Moves (react : Behaviour β) : Consumer β → List (Doing β) → Consumer β → Prop
  | act (c : Consumer β) {a : Act β} (ha : a ≠ .close) :
      Moves react c [.act a] { c with hub := c.hub.perform a }
  | destroy (c : Consumer β) : Moves react c [.act .close] c.destroy
  | deliver {c : Consumer β} {fruitful : Bool} (hlive : c.phase = .live fruitful)
      (batch : List TxResult) : Moves react c [.batch batch] (c.deliver react batch)
  | lose {c : Consumer β} {fruitful : Bool} (hlive : c.phase = .live fruitful) :
      Moves react c [] (c.lose fruitful)
  | halt {c : Consumer β} (hclosed : c.hub.closed = true) :
      Moves react c [] { c with phase := .stopped }
  | start {c : Consumer β} (hidle : c.phase = .idle) :
      Moves react c [] { c with phase := .waiting c.now }
  | connect {c : Consumer β} {due : ℕ} (hwaiting : c.phase = .waiting due) :
      Moves react c [] { c with now := due }.opened
  | pass (c : Consumer β) (now : ℕ) (plan : List Opening) (sourceOpen : Bool) :
      Moves react c [] { c with now, plan, sourceOpen }

inductive Goes (react : Behaviour β) : Consumer β → List (Doing β) → Consumer β → Prop
  | refl (c : Consumer β) : Goes react c [] c
  | step {c c' c'' : Consumer β} {ds ds' : List (Doing β)} (hgoes : Goes react c ds c')
      (hmoves : Moves react c' ds' c'') : Goes react c (ds ++ ds') c''

variable {c c' c'' : Consumer β} {ds ds' : List (Doing β)}

theorem Moves.goes (h : Moves react c ds c') : Goes react c ds c' :=
  (Goes.refl c).step h

theorem Goes.trans (hfirst : Goes react c ds c') (hsecond : Goes react c' ds' c'') :
    Goes react c (ds ++ ds') c'' := by
  induction hsecond with
  | refl => rwa [List.append_nil]
  | step _ hmoves ih =>
    rw [← List.append_assoc]
    exact ih.step hmoves

/-- What every move keeps, any number of them keeps. -/
theorem Goes.keeps {P : Consumer β → Prop} (hgoes : Goes react c ds c')
    (hkept : ∀ {c ds c'}, Moves react c ds c' → P c → P c') (hc : P c) : P c' := by
  induction hgoes with
  | refl => exact hc
  | step _ hmoves ih => exact hkept hmoves ih

theorem goes_halt (react : Behaviour β) (c : Consumer β) : Goes react c [] c.halt := by
  rw [halt]
  split
  · next hclosed => exact (Moves.halt hclosed).goes
  · exact .refl c

theorem goes_receive (react : Behaviour β) (c : Consumer β) (item : Item) :
    Goes react c (c.itemDoings item) (c.receive react item) := by
  cases hphase : c.phase with
  | live fruitful =>
    cases item with
    | ok batch =>
      simp only [itemDoings, receive, hphase]
      exact (Moves.deliver hphase batch).goes
    | error e =>
      simp only [itemDoings, receive, hphase]
      exact (Moves.lose hphase).goes.trans (goes_halt react _)
  | _ =>
    simp only [itemDoings, receive, hphase]
    exact .refl c

theorem goes_items (react : Behaviour β) (items : List Item) (c : Consumer β) :
    Goes react c (itemsDoings react c items) (items.foldl (receive react) c) := by
  induction items generalizing c with
  | nil => exact .refl c
  | cons item items ih => exact (goes_receive react c item).trans (ih _)

theorem goes_finish (react : Behaviour β) (c : Consumer β) : Goes react c [] c.finish := by
  rw [finish]
  split
  · next fruitful hlive => exact (Moves.lose hlive).goes.trans (goes_halt react _)
  · exact (Moves.pass c c.now c.plan false).goes

theorem goes_connect (react : Behaviour β) {due : ℕ} (hwaiting : c.phase = .waiting due)
    (opening : Opening) :
    Goes react c (openingDoings react { c with now := due } opening)
      ({ c with now := due }.connect react opening) := by
  have hopened : Goes react c [] { c with now := due }.opened := (Moves.connect hwaiting).goes
  cases opening with
  | refused => exact hopened.step (.lose rfl)
  | stream items stays =>
    have hitems := hopened.trans (goes_items react items _)
    cases stays with
    | true =>
      have hwaits := hitems.trans (goes_halt react _)
      rwa [List.append_nil] at hwaits
    | false =>
      have hended := hitems.trans (goes_finish react _)
      rwa [List.append_nil] at hended

theorem waiting_of_due? {limit due : ℕ} (hdue : c.due? limit = some due) :
    c.phase = .waiting due := by
  rw [due?] at hdue
  split at hdue
  · next later hphase =>
    split at hdue
    · rwa [← Option.some.inj hdue]
    · cases hdue
  · cases hdue

theorem goes_reconnect (react : Behaviour β) (limit : ℕ) (plan : List Opening) (c : Consumer β) :
    Goes react c (reconnectDoings react limit plan c) (reconnect react limit plan c) := by
  induction plan generalizing c with
  | nil =>
    rw [reconnectDoings.eq_def, reconnect.eq_def]
    dsimp only
    cases hdue : c.due? limit with
    | none => exact (Moves.pass c c.now [] c.sourceOpen).goes
    | some due =>
      exact (goes_connect react (waiting_of_due? hdue) (.stream [] true)).step (.pass _ _ [] _)
  | cons opening rest ih =>
    rw [reconnectDoings.eq_def, reconnect.eq_def]
    dsimp only
    cases hdue : c.due? limit with
    | none => exact (Moves.pass c c.now _ c.sourceOpen).goes
    | some due => exact (goes_connect react (waiting_of_due? hdue) opening).trans (ih _)

theorem goes_settle (react : Behaviour β) (c : Consumer β) :
    Goes react c (c.settleDoings react) (c.settle react) :=
  goes_reconnect react c.now c.plan c

theorem goes_step (react : Behaviour β) (c : Consumer β) (input : Input β) :
    Goes react c (c.stepDoings react input) (c.step react input) := by
  cases input with
  | subscribe contract callback =>
    exact (Moves.act (a := .subscribe contract callback) c nofun).goes
  | cancel id => exact (Moves.act (a := .cancel id) c nofun).goes
  | destroy => exact (Moves.destroy c).goes
  | expect openings => exact (Moves.pass c c.now _ c.sourceOpen).goes
  | push item =>
    cases item with
    | ok batch =>
      have htaken := (goes_receive react c (.ok batch)).trans (goes_halt react _)
      rw [List.append_nil] at htaken
      exact htaken.trans (goes_settle react _)
    | error e =>
      have hlost := (goes_receive react c (.error e)).trans (goes_finish react _)
      rw [List.append_nil] at hlost
      exact hlost.trans (goes_settle react _)
  | endStream => exact (goes_finish react c).trans (goes_settle react _)
  | pass time =>
    have hpassed := (goes_reconnect react (c.now + time) c.plan c).step
      (.pass _ (c.now + time) (reconnect react (c.now + time) c.plan c).plan
        (reconnect react (c.now + time) c.plan c).sourceOpen)
    rwa [List.append_nil] at hpassed
  | start =>
    cases hphase : c.phase with
    | idle =>
      simp only [stepDoings, step, start, hphase]
      exact (Moves.start hphase).goes.trans (goes_settle react _)
    | _ =>
      simp only [stepDoings, step, start, hphase]
      exact .refl c

theorem goes_run (react : Behaviour β) (c : Consumer β) (inputs : List (Input β)) :
    Goes react c (doings react c inputs) (c.run react inputs) := by
  induction inputs generalizing c with
  | nil => exact .refl c
  | cons input inputs ih => exact (goes_step react c input).trans (ih _)

/-! ### The hub -/

theorem Moves.hub_eq (h : Moves react c ds c') : c'.hub = ds.foldl (Hub.attend react) c.hub := by
  cases h <;> rfl

theorem Goes.hub_eq (h : Goes react c ds c') : c'.hub = ds.foldl (Hub.attend react) c.hub := by
  induction h with
  | refl => rfl
  | step _ hmoves ih => rw [List.foldl_append, ← ih, hmoves.hub_eq]

theorem replay_run (react : Behaviour β) (settings : Settings) (inputs : List (Input β)) :
    (({ settings } : Consumer β).run react inputs).hub =
      Hub.replay (Hub.history react (doings react { settings } inputs)) := by
  rw [Hub.replay_history]
  exact (goes_run react _ inputs).hub_eq

/-! ### What is done from outside -/

theorem act?_itemDoings (c : Consumer β) (item : Item) :
    (c.itemDoings item).filterMap Doing.act? = [] := by
  unfold itemDoings
  split <;> rfl

theorem act?_itemsDoings (react : Behaviour β) (items : List Item) (c : Consumer β) :
    (itemsDoings react c items).filterMap Doing.act? = [] := by
  induction items generalizing c with
  | nil => rfl
  | cons item items ih => rw [itemsDoings, List.filterMap_append, act?_itemDoings, ih, List.nil_append]

theorem act?_openingDoings (react : Behaviour β) (c : Consumer β) (opening : Opening) :
    (openingDoings react c opening).filterMap Doing.act? = [] := by
  cases opening with
  | refused => rfl
  | stream items stays => exact act?_itemsDoings react items _

theorem act?_reconnectDoings (react : Behaviour β) (limit : ℕ) (plan : List Opening)
    (c : Consumer β) : (reconnectDoings react limit plan c).filterMap Doing.act? = [] := by
  induction plan generalizing c with
  | nil =>
    rw [reconnectDoings.eq_def]
    dsimp only
    cases c.due? limit <;> rfl
  | cons opening rest ih =>
    rw [reconnectDoings.eq_def]
    dsimp only
    cases c.due? limit with
    | none => rfl
    | some due =>
      dsimp only
      rw [List.filterMap_append, act?_openingDoings, ih, List.nil_append]

theorem act?_stepDoings (react : Behaviour β) (c : Consumer β) (input : Input β) :
    (c.stepDoings react input).filterMap Doing.act? = input.act?.toList := by
  cases input with
  | push item =>
    rw [stepDoings.eq_def, List.filterMap_append, act?_itemDoings]
    exact act?_reconnectDoings react _ _ _
  | start =>
    rw [stepDoings.eq_def]
    dsimp only
    split
    · exact act?_reconnectDoings react _ _ _
    · rfl
  | endStream => exact act?_reconnectDoings react _ _ _
  | pass time => exact act?_reconnectDoings react _ _ _
  | _ => rfl

theorem hub_run (react : Behaviour β) (c : Consumer β) (inputs : List (Input β)) :
    ∃ parts : List (List (Doing β)),
      List.Forall₂ (fun input part => part.filterMap Doing.act? = input.act?.toList) inputs parts ∧
      (c.run react inputs).hub = parts.flatten.foldl (Hub.attend react) c.hub := by
  induction inputs generalizing c with
  | nil => exact ⟨[], .nil, rfl⟩
  | cons input inputs ih =>
    obtain ⟨parts, hparts, hrun⟩ := ih (c.step react input)
    refine ⟨_ :: parts, .cons (c.act?_stepDoings react input) hparts, ?_⟩
    rw [List.flatten_cons, List.foldl_append, ← (goes_step react c input).hub_eq]
    exact hrun

end Consumer
end Countersign.Feed
