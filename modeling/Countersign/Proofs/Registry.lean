import Countersign.Proofs.Connection
import Countersign.Proofs.Subscriptions
import Mathlib

/-! The registry of a hub lists the live subscriptions and no others, at every moment of every history;
and when a hub is closed its consumer has stopped for good. -/

namespace Countersign.Feed

variable {β : Type} {react : Behaviour β} {h : Hub β} {before : List (Moment β)}

namespace Hub

structure Orderly (h : Hub β) : Prop where
  increasing : (h.subscriptions.map Subscription.id).Pairwise (· < ·)
  listed : h.listed = (h.subscriptions.filter (·.active)).map Subscription.id
  count : h.listed.length = h.subscriptions.countP (·.active)
  isActive_iff : ∀ id, h.isActive id = true ↔ id ∈ h.listed
  closed : h.closed = true → h.listed = [] ∧ ∀ s ∈ h.subscriptions, s.active = false

end Hub

theorem Reflects.isActive_iff (hr : Reflects h before) {id : ℕ} :
    h.isActive id = true ↔ ∃ s ∈ h.subscriptions, s.id = id ∧ s.active = true := by
  simp [Hub.isActive, Option.any_eq_true, hr.find?_eq_some, and_assoc]

theorem Reflects.orderly (hr : Reflects h before) : h.Orderly where
  increasing := hr.ids ▸ List.pairwise_lt_range'
  listed := hr.listed
  count := by rw [hr.listed, List.length_map, List.countP_eq_length_filter]
  isActive_iff id := by
    simp only [hr.isActive_iff, hr.listed, List.mem_map, List.mem_filter]
    exact ⟨fun ⟨s, hs, hid, hactive⟩ => ⟨s, ⟨hs, hactive⟩, hid⟩,
      fun ⟨s, ⟨hs, hactive⟩, hid⟩ => ⟨s, hs, hid, hactive⟩⟩
  closed hclosed := by
    have hinactive : ∀ s ∈ h.subscriptions, s.active = false := fun s hs => by
      have hended : Ended before s.id := .inl (hr.closed.1 hclosed)
      simpa [hended] using hr.active s hs
    refine ⟨?_, hinactive⟩
    rw [hr.listed, List.filter_eq_nil_iff.2 fun s hs => by simp [hinactive s hs], List.map_nil]

namespace Hub

theorem orderly_replay (before : List (Moment β)) : (replay before).Orderly :=
  (reflects before).orderly

/-! ### Cancelling and closing once more -/

theorem Orderly.cancel_eq (ho : h.Orderly) {id : ℕ} (hid : h.isActive id = false) :
    h.cancel id = h := by
  have hunlisted : id ∉ h.listed := fun hmem => by
    rw [(ho.isActive_iff id).2 hmem] at hid
    cases hid
  have hlisted : h.listed.filter (· != id) = h.listed :=
    List.filter_eq_self.2 fun i hi => by simpa using ne_of_mem_of_not_mem hi hunlisted
  have hsame : ∀ s ∈ h.subscriptions, (if s.id = id then { s with active := false } else s) = s := by
    intro s hs
    split
    · next hs' =>
      have hinactive : s.active = false := by
        by_contra hactive
        refine hunlisted (ho.listed ▸ List.mem_map.2 ⟨s, List.mem_filter.2 ⟨hs, ?_⟩, hs'⟩)
        simpa using hactive
      rw [← hinactive]
    · rfl
  simp only [cancel, modify, hlisted, List.map_congr_left hsame, List.map_id']

theorem Orderly.close_eq (ho : h.Orderly) (hclosed : h.closed = true) : h.close = h := by
  obtain ⟨subscriptions, listed, closed, calls⟩ := h
  obtain rfl : listed = [] := (ho.closed hclosed).1
  obtain rfl : closed = true := hclosed
  simp [close]

theorem close_close (h : Hub β) : h.close.close = h.close := by
  simp [close]

end Hub

structure Registry (h : Hub β) (before : List (Moment β)) : Prop where
  orderly : h.Orderly
  made : h.subscriptions.map Subscription.contract = before.filterMap Moment.subscribed?
  ended : ∀ s ∈ h.subscriptions, s.active = false →
    ∀ after : List (Moment β), (after.foldl Hub.follow h).isActive s.id = false
  closed : h.closed = true ↔ .act .close ∈ before
  cancelled : ∀ id, (h.cancel id).isActive id = false
  cancel_inactive : ∀ id, h.isActive id = false → h.cancel id = h
  cancel_cancel : ∀ id, (h.cancel id).cancel id = h.cancel id
  close_close : h.close.close = h.close

theorem registry_replay (before : List (Moment β)) : Registry (Hub.replay before) before := by
  have hr := reflects before
  have hcancelled : ∀ id, ((Hub.replay before).cancel id).isActive id = false := fun id => by
    refine Bool.eq_false_iff.2 fun hactive => ?_
    simpa [Hub.cancel] using ((hr.cancel id).orderly.isActive_iff id).1 hactive
  constructor
  case orderly => exact hr.orderly
  case made => exact hr.contracts
  case ended =>
    intro s hs hinactive after
    rw [← Hub.replay_append]
    refine Bool.eq_false_iff.2 fun hactive => ?_
    have hafter := reflects (before ++ after)
    obtain ⟨s', hs', hid, hactive'⟩ := hafter.isActive_iff.1 hactive
    have hended : Ended before s.id := by simpa [hinactive] using hr.active s hs
    exact (hafter.active s' hs').1 hactive' (hid ▸ hended.append after)
  case closed => exact hr.closed
  case cancelled => exact hcancelled
  case cancel_inactive => exact fun id => hr.orderly.cancel_eq
  case cancel_cancel => exact fun id => (hr.cancel id).orderly.cancel_eq (hcancelled id)
  case close_close => exact Hub.close_close _

/-! ### The consumer stops with its hub -/

namespace Hub

theorem closed_perform (h : Hub β) {a : Act β} (ha : a ≠ .close) :
    (h.perform a).closed = h.closed := by
  cases a with
  | close => exact absurd rfl ha
  | _ => rfl

theorem closed_follow (hclosed : h.closed = true) (m : Moment β) : (h.follow m).closed = true := by
  cases m with
  | act a =>
    by_cases ha : a = .close
    · rw [ha]; rfl
    · exact (h.closed_perform ha).trans hclosed
  | _ => exact hclosed

theorem closed_attend (hclosed : h.closed = true) (doing : Doing β) :
    (h.attend react doing).closed = true := by
  rw [← foldl_moments]
  exact List.foldlRecOn (motive := fun h : Hub β => h.closed = true) _ follow hclosed
    fun _ hclosed m _ => closed_follow hclosed m

end Hub

namespace Consumer

variable {c c' c'' : Consumer β} {ds : List (Doing β)}

theorem Goes.closed (hgoes : Goes react c ds c') (hclosed : c.hub.closed = true) :
    c'.hub.closed = true := by
  rw [hgoes.hub_eq]
  exact List.foldlRecOn (motive := fun h : Hub β => h.closed = true) ds _ hclosed
    fun _ hclosed doing _ => Hub.closed_attend hclosed doing

/-- With a closed hub a consumer has stopped. While items come at once it need not have: it still takes
them all. -/
def Halted (c : Consumer β) : Prop :=
  c.hub.closed = true → c.phase = .stopped

theorem halted_halt (c : Consumer β) : c.halt.Halted := by
  intro hclosed
  cases hhub : c.hub.closed with
  | true => rw [halt_of_closed hhub]
  | false =>
    rw [halt_of_open hhub, hhub] at hclosed
    cases hclosed

theorem halted_receive (react : Behaviour β) (item : Item) (hc : c.isLive ∨ c.Halted) :
    (c.receive react item).isLive ∨ (c.receive react item).Halted := by
  rw [receive.eq_def]
  split
  · exact .inl rfl
  · exact .inr (halted_halt _)
  · exact hc

theorem halted_items (react : Behaviour β) (items : List Item) (hc : c.isLive ∨ c.Halted) :
    (items.foldl (receive react) c).isLive ∨ (items.foldl (receive react) c).Halted :=
  List.foldlRecOn (motive := fun c : Consumer β => c.isLive ∨ c.Halted) items (receive react) hc
    fun _ hc item _ => halted_receive react item hc

theorem halted_finish (hc : c.isLive ∨ c.Halted) : c.finish.Halted := by
  rw [finish.eq_def]
  split
  · exact halted_halt _
  · next hdead =>
    refine hc.resolve_left fun hlive => ?_
    rw [isLive] at hlive
    split at hlive
    · next live hphase => exact hdead live hphase
    · cases hlive

theorem halted_connect (react : Behaviour β) (hopen : c.hub.closed = false) (opening : Opening) :
    (c.connect react opening).Halted := by
  cases opening with
  | refused =>
    intro hclosed
    cases hopen.symm.trans hclosed
  | stream items stays =>
    rw [connect_stream]
    split
    · exact halted_halt _
    · exact halted_finish (halted_items react items (.inl rfl))

theorem Halted.open_of_due? {limit due : ℕ} (hc : c.Halted) (hdue : c.due? limit = some due) :
    c.hub.closed = false := by
  refine Bool.eq_false_iff.2 fun hclosed => ?_
  cases (hc hclosed).symm.trans (waiting_of_due? hdue)

theorem Halted.reconnect (hc : c.Halted) (limit : ℕ) (plan : List Opening) :
    (reconnect react limit plan c).Halted := by
  fun_induction Consumer.reconnect react limit plan c with
  | case1 c plan hdue => exact hc
  | case2 c due hdue =>
    exact halted_connect react (c := { c with now := due }) (hc.open_of_due? hdue) _
  | case3 c due opening rest hdue ih =>
    exact ih (halted_connect react (c := { c with now := due }) (hc.open_of_due? hdue) opening)

theorem Halted.step (hc : c.Halted) (input : Input β) : (c.step react input).Halted := by
  cases input with
  | subscribe contract callback => exact hc
  | cancel id => exact hc
  | destroy => exact fun _ => rfl
  | expect openings => exact hc
  | push item =>
    cases item with
    | ok batch => exact (halted_halt _).reconnect _ _
    | error e => exact (halted_finish (halted_receive react _ (.inr hc))).reconnect _ _
  | endStream => exact (halted_finish (.inr hc)).reconnect _ _
  | pass time => exact hc.reconnect (c.now + time) c.plan
  | start =>
    change (c.start react).Halted
    rw [Consumer.start]
    split
    · next hidle =>
      have hwaiting : Halted { c with phase := .waiting c.now } := fun hclosed => by
        cases (hc hclosed).symm.trans hidle
      exact hwaiting.reconnect _ _
    · exact hc

theorem Halted.run (hc : c.Halted) (react : Behaviour β) (inputs : List (Input β)) :
    (c.run react inputs).Halted :=
  List.foldlRecOn (motive := Halted) inputs (Consumer.step react) hc fun _ hc input _ => hc.step input

/-- A consumer that has stopped, and only what is asked of its hub is done from then on. -/
structure Rests (c c' : Consumer β) : Prop where
  phase : c'.phase = .stopped
  attempts : c'.attempts = c.attempts
  metrics : c'.metrics = c.metrics
  calls : c'.hub.calls = c.hub.calls

theorem Moves.rests (hmoves : Moves react c ds c') (hstopped : c.phase = .stopped) :
    Rests c c' := by
  cases hmoves with
  | act => exact ⟨hstopped, rfl, rfl, c.hub.calls_perform _⟩
  | destroy | halt => exact ⟨rfl, rfl, rfl, rfl⟩
  | pass => exact ⟨hstopped, rfl, rfl, rfl⟩
  | deliver hphase | lose hphase | start hphase | connect hphase =>
    rw [hstopped] at hphase
    cases hphase

theorem Rests.trans (hfirst : Rests c c') (hsecond : Rests c' c'') : Rests c c'' where
  phase := hsecond.phase
  attempts := hsecond.attempts.trans hfirst.attempts
  metrics := hsecond.metrics.trans hfirst.metrics
  calls := hsecond.calls.trans hfirst.calls

theorem Goes.rests (hgoes : Goes react c ds c') (hstopped : c.phase = .stopped) : Rests c c' :=
  hgoes.keeps (P := Rests c) (fun hmoves hrests => hrests.trans (hmoves.rests hrests.phase))
    ⟨hstopped, rfl, rfl, rfl⟩

theorem act?_doings (react : Behaviour β) (c : Consumer β) (inputs : List (Input β)) :
    (doings react c inputs).filterMap Doing.act? = inputs.filterMap Input.act? := by
  induction inputs generalizing c with
  | nil => rfl
  | cons input inputs ih =>
    rw [doings, List.filterMap_append, act?_stepDoings, ih]
    cases hact : input.act? <;> simp [hact]

theorem closed_of_destroy (react : Behaviour β) (c : Consumer β) {inputs : List (Input β)}
    (hdestroy : .destroy ∈ inputs) : (c.run react inputs).hub.closed = true := by
  obtain ⟨first, rest, rfl⟩ := List.append_of_mem hdestroy
  rw [run, List.foldl_append, List.foldl_cons]
  exact (goes_run react _ rest).closed rfl

end Consumer

structure Retires (react : Behaviour β) (inputs : List (Input β)) (ds : List (Doing β))
    (c : Consumer β) : Prop where
  acts : ds.filterMap Doing.act? = inputs.filterMap Input.act?
  replayed : c.hub = Hub.replay (Hub.history react ds)
  destroyed : .destroy ∈ inputs → c.hub.closed = true
  destroy_destroy : c.destroy.destroy = c.destroy
  closed : c.hub.closed = true → c.start react = c ∧ c.destroy = c ∧ ∀ more : List (Input β),
    Consumer.Rests c (c.run react more) ∧ (c.run react more).hub.closed = true ∧
      (c.run react more).hub.listed = []

theorem orderly_run (react : Behaviour β) (settings : Settings) (inputs : List (Input β)) :
    (({ settings } : Consumer β).run react inputs).hub.Orderly :=
  Consumer.replay_run react settings inputs ▸ Hub.orderly_replay _

theorem retires (react : Behaviour β) (settings : Settings) (inputs : List (Input β)) :
    Retires react inputs (Consumer.doings react { settings } inputs)
      (({ settings } : Consumer β).run react inputs) where
  acts := Consumer.act?_doings react _ inputs
  replayed := Consumer.replay_run react settings inputs
  destroyed := Consumer.closed_of_destroy react _
  destroy_destroy := by rw [Consumer.destroy, Consumer.destroy, Hub.close_close]
  closed hclosed := by
    have hnew : Consumer.Halted ({ settings } : Consumer β) := nofun
    have hphase := hnew.run react inputs hclosed
    refine ⟨?start, ?destroy, fun more => ?more⟩
    case start => rw [Consumer.start, hphase]
    case destroy =>
      rw [Consumer.destroy, (orderly_run react settings inputs).close_eq hclosed, ← hphase]
    case more =>
      have hgoes := Consumer.goes_run react (({ settings } : Consumer β).run react inputs) more
      have horderly := orderly_run react settings (inputs ++ more)
      rw [Consumer.run, List.foldl_append] at horderly
      exact ⟨hgoes.rests hphase, hgoes.closed hclosed, (horderly.closed (hgoes.closed hclosed)).1⟩

/-- Whatever happens to a hub, by callbacks in the middle of a batch too, its registry is the list of
its active subscriptions; and when the hub of a consumer is closed, the consumer is at an end. -/
theorem registry_exact (react : Behaviour β) :
    (∀ before : List (Moment β), Registry (Hub.replay before) before) ∧
      ∀ (settings : Settings) (inputs : List (Input β)),
        Retires react inputs (Consumer.doings react { settings } inputs)
          (({ settings } : Consumer β).run react inputs) :=
  ⟨registry_replay, retires react⟩

end Countersign.Feed
