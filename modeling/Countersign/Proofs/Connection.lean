import Countersign.Proofs.Sessions
import Mathlib

/-! One connection of a consumer. It hands its hub the batches that come before the first error, one
by one and in order, and then the stream is lost. Where a callback closes the hub, only the batches that
came at once with the one it was called for are still taken, and the consumer stops. -/

namespace Countersign.Feed

variable {β : Type} {react : Behaviour β}

/-- What comes of a connection. A stream gives its items at once and ends; or it stays open, gives each
of the others some time after the one before it, and then ends. -/
inductive Outcome where
  | refused
  | burst (items : List Item)
  | stream (items : List Item) (arrivals : List (ℕ × Item))

def taken (items : List Item) : List (List TxResult) :=
  (items.takeWhile Except.isOk).filterMap Except.toOption

def arrive : List (ℕ × Item) → List (Input β)
  | [] => [.endStream]
  | (time, .ok batch) :: arrivals => .pass time :: .push (.ok batch) :: arrive arrivals
  | (time, .error e) :: _ => [.pass time, .push (.error e)]

def lasting : List (ℕ × Item) → ℕ
  | [] => 0
  | (time, .ok _) :: arrivals => time + lasting arrivals
  | (time, .error _) :: _ => time

namespace Outcome

def items : Outcome → List Item
  | .refused => []
  | .burst items => items
  | .stream items arrivals => items ++ arrivals.map Prod.snd

def batches (o : Outcome) : List (List TxResult) :=
  taken o.items

def opening : Outcome → Opening
  | .refused => .refused
  | .burst items => .stream items false
  | .stream items _ => .stream items true

def inputs : Outcome → List (Input β)
  | .refused | .burst _ => []
  | .stream items arrivals => if items.all Except.isOk then arrive arrivals else []

def duration : Outcome → ℕ
  | .refused | .burst _ => 0
  | .stream items arrivals => if items.all Except.isOk then lasting arrivals else 0

/-- After the batches before them, some batches come at once, and the stream is over then or is not. -/
inductive Brings : Outcome → (before wave : List (List TxResult)) → (lost : Bool) → Prop
  | burst (items : List Item) : Brings (.burst items) [] (taken items) true
  | prompt (items : List Item) (arrivals : List (ℕ × Item)) :
      Brings (.stream items arrivals) [] (taken items) (!items.all Except.isOk)
  | arrival {items : List Item} {arrivals : List (ℕ × Item)} {before : List (List TxResult)}
      {batch : List TxResult} (hitems : items.all Except.isOk = true)
      (hbefore : before ++ [batch] <+: taken (arrivals.map Prod.snd)) :
      Brings (.stream items arrivals) (taken items ++ before) [batch] false

end Outcome

section Items

@[simp] theorem taken_nil : taken [] = [] := rfl

@[simp] theorem taken_ok (batch : List TxResult) (items : List Item) :
    taken (.ok batch :: items) = batch :: taken items := rfl

@[simp] theorem taken_error (e : FeedError) (items : List Item) : taken (.error e :: items) = [] :=
  rfl

theorem taken_append (first later : List Item) :
    taken (first ++ later) = taken first ++ if first.all Except.isOk then taken later else [] := by
  induction first with
  | nil => rfl
  | cons item first ih =>
    cases item with
    | error e => rfl
    | ok batch =>
      rw [List.cons_append, taken_ok, taken_ok, ih]
      rfl

theorem Outcome.Brings.isPrefix {o : Outcome} {before wave : List (List TxResult)} {lost : Bool}
    (h : o.Brings before wave lost) : before ++ wave <+: o.batches := by
  cases h with
  | burst items => exact List.prefix_rfl
  | prompt items arrivals =>
    rw [Outcome.batches, Outcome.items, taken_append]
    exact List.prefix_append _ _
  | arrival hitems hbefore =>
    rw [Outcome.batches, Outcome.items, taken_append, hitems, if_pos rfl, List.append_assoc]
    exact (List.prefix_append_right_inj _).2 hbefore

theorem act?_arrive (arrivals : List (ℕ × Item)) :
    ∀ input ∈ (arrive arrivals : List (Input β)), input.act? = none := by
  fun_induction arrive arrivals with
  | case1 => simp [Input.act?]
  | case2 time batch arrivals ih => simpa [Input.act?] using ih
  | case3 => simp [Input.act?]

theorem Outcome.act?_inputs (o : Outcome) :
    ∀ input ∈ (o.inputs : List (Input β)), input.act? = none := by
  cases o with
  | refused => simp [Outcome.inputs]
  | burst items => simp [Outcome.inputs]
  | stream items arrivals =>
    rw [Outcome.inputs]
    split
    · exact act?_arrive arrivals
    · simp

end Items

namespace Consumer

variable {v c : Consumer β} {given : List (List TxResult)} {time : ℕ}

theorem reconnect_of_due?_eq_none {limit : ℕ} (hdue : c.due? limit = none) (plan : List Opening) :
    reconnect react limit plan c = { c with plan } := by
  cases plan <;> simp [reconnect, hdue]

def deliverAll (react : Behaviour β) (given : List (List TxResult)) (c : Consumer β) : Consumer β :=
  given.foldl (fun c batch => c.deliver react batch) c

theorem deliverAll_append (first later : List (List TxResult)) (c : Consumer β) :
    c.deliverAll react (first ++ later) = (c.deliverAll react first).deliverAll react later :=
  List.foldl_append

theorem deliverAll_congr {c' : Consumer β} {n : ℕ} (react : Behaviour β)
    (given : List (List TxResult)) (hhub : c.hub = c'.hub)
    (hmetrics : c.metrics = { c'.metrics with reconnections := n }) :
    (c.deliverAll react given).hub = (c'.deliverAll react given).hub ∧
      (c.deliverAll react given).metrics =
        { (c'.deliverAll react given).metrics with reconnections := n } := by
  induction given generalizing c c' with
  | nil => exact ⟨hhub, hmetrics⟩
  | cons batch given ih =>
    have hdelivered : (c.deliver react batch).hub = (c'.deliver react batch).hub := by
      simp only [deliver, hhub]
    exact ih hdelivered (by simp only [deliver, hhub, hmetrics])

/-- Consumer `v` connected, and `c` is what it is after these batches, as far as no clock matters. -/
structure Handed (react : Behaviour β) (v : Consumer β) (given : List (List TxResult))
    (c : Consumer β) : Prop where
  settings : c.settings = v.settings
  failures : c.failures = v.failures
  attempts : c.attempts = v.attempts ++ [v.now]
  hub : c.hub = (v.deliverAll react given).hub
  metrics : c.metrics = (v.deliverAll react given).metrics

structure Streaming (react : Behaviour β) (v : Consumer β) (given : List (List TxResult)) (time : ℕ)
    (c : Consumer β) : Prop extends Handed react v given c where
  now : c.now = v.now + time
  phase : c.phase = .live (!given.isEmpty)

/-- A callback closed the hub while the last of these batches came, and that was the end. -/
structure Cut (react : Behaviour β) (v : Consumer β) (before wave : List (List TxResult))
    (lost : Bool) (c : Consumer β) : Prop where
  stopped : c.phase = .stopped
  attempts : c.attempts = v.attempts ++ [v.now]
  hub : c.hub = (v.deliverAll react (before ++ wave)).hub
  metrics : c.metrics = { (v.deliverAll react (before ++ wave)).metrics with
    reconnections := v.metrics.reconnections + lost.toNat }
  unclosed : (v.deliverAll react before).hub.closed = false
  closed : c.hub.closed = true

theorem Handed.deliver (h : Handed react v given c) (batch : List TxResult) :
    Handed react v (given ++ [batch]) (c.deliver react batch) := by
  have hmore := deliverAll_congr react [batch] h.hub h.metrics
  refine ⟨h.settings, h.failures, h.attempts, ?_, ?_⟩
  · rw [deliverAll_append]
    exact hmore.1
  · rw [deliverAll_append]
    exact hmore.2

theorem reconnections_deliverAll (react : Behaviour β) (given : List (List TxResult))
    (c : Consumer β) :
    (c.deliverAll react given).metrics.reconnections = c.metrics.reconnections := by
  induction given generalizing c with
  | nil => rfl
  | cons batch given ih => exact ih (c.deliver react batch)

theorem Handed.reconnections (h : Handed react v given c) :
    c.metrics.reconnections = v.metrics.reconnections := by
  rw [h.metrics, reconnections_deliverAll]

theorem Streaming.deliver (h : Streaming react v given time c) (batch : List TxResult) :
    Streaming react v (given ++ [batch]) time (c.deliver react batch) :=
  ⟨h.toHanded.deliver batch, h.now, by simp [Consumer.deliver]⟩

theorem Streaming.pass (h : Streaming react v given time c) (more : ℕ) :
    Streaming react v given (time + more) (c.pass react more) ∧
      (c.pass react more).plan = c.plan := by
  have hdue : c.due? (c.now + more) = none := by simp [due?, h.phase]
  rw [Consumer.pass, reconnect_of_due?_eq_none hdue]
  refine ⟨⟨{ h.toHanded with }, ?_, h.phase⟩, rfl⟩
  rw [← Nat.add_assoc, ← h.now]

theorem settle_of_not_waiting (hphase : ∀ due, c.phase ≠ .waiting due) : c.settle react = c := by
  refine reconnect_of_due?_eq_none ?_ c.plan
  rw [due?]
  split
  · next due hdue => exact absurd hdue (hphase due)
  · rfl

/-! ### A consumer that was stopped stays so -/

section Cut

variable {before wave : List (List TxResult)} {lost : Bool}

theorem Streaming.cut (h : Streaming react v (before ++ wave) time c)
    (hbefore : (v.deliverAll react before).hub.closed = false) (hclosed : c.hub.closed = true) :
    Cut react v before wave false c.halt ∧
      ∀ fruitful, Cut react v before wave true (c.lose fruitful).halt := by
  have hcount := h.toHanded.reconnections
  constructor
  · rw [halt_of_closed hclosed]
    refine ⟨rfl, h.attempts, h.hub, ?_, hbefore, hclosed⟩
    rw [← h.metrics]
    simp [← hcount]
  · intro fruitful
    rw [halt_of_closed (c := c.lose fruitful) hclosed]
    refine ⟨rfl, h.attempts, h.hub, ?_, hbefore, hclosed⟩
    rw [← h.metrics]
    simp [← hcount, lose]

theorem receive_of_stopped (hstopped : c.phase = .stopped) (item : Item) :
    c.receive react item = c := by
  simp only [receive, hstopped]

theorem Cut.unclocked (h : Cut react v before wave lost c) (now : ℕ) (plan : List Opening)
    (sourceOpen : Bool) : Cut react v before wave lost { c with now, plan, sourceOpen } :=
  { h with }

theorem Cut.reconnect (h : Cut react v before wave lost c) (limit : ℕ) (plan : List Opening) :
    Cut react v before wave lost (reconnect react limit plan c) := by
  rw [reconnect_of_due?_eq_none (by rw [due?, h.stopped])]
  exact h.unclocked c.now plan c.sourceOpen

theorem Cut.finish (h : Cut react v before wave lost c) : Cut react v before wave lost c.finish := by
  have hfinish : c.finish = { c with sourceOpen := false } := by
    simp only [Consumer.finish, h.stopped]
  rw [hfinish]
  exact h.unclocked c.now c.plan false

theorem Cut.halt (h : Cut react v before wave lost c) : Cut react v before wave lost c.halt := by
  rw [halt_of_closed h.closed, ← h.stopped]
  exact h

theorem Cut.step (h : Cut react v before wave lost c) (input : Input β) (hinput : input.act? = none) :
    Cut react v before wave lost (c.step react input) := by
  cases input with
  | subscribe => cases hinput
  | cancel => cases hinput
  | destroy => cases hinput
  | start =>
    change Cut react v before wave lost (c.start react)
    rwa [Consumer.start, h.stopped]
  | expect openings => exact h.unclocked c.now (c.plan ++ openings) c.sourceOpen
  | push item =>
    change Cut react v before wave lost (c.push react item)
    cases item with
    | ok batch =>
      rw [push, receive_of_stopped h.stopped]
      exact h.halt.reconnect _ _
    | error e =>
      rw [push, receive_of_stopped h.stopped]
      exact h.finish.reconnect _ _
  | endStream => exact h.finish.reconnect _ _
  | pass more =>
    have hcut := h.reconnect (c.now + more) c.plan
    exact hcut.unclocked _ _ _

theorem Cut.run {inputs : List (Input β)} (h : Cut react v before wave lost c)
    (hinputs : ∀ input ∈ inputs, input.act? = none) :
    Cut react v before wave lost (c.run react inputs) := by
  induction inputs generalizing c with
  | nil => exact h
  | cons input inputs ih =>
    obtain ⟨hinput, hinputs⟩ := List.forall_mem_cons.1 hinputs
    exact ih (h.step input hinput) hinputs

end Cut

/-! ### The items of a stream -/

theorem phase_lose_halt (fruitful : Bool) (c : Consumer β) :
    ∀ live, (c.lose fruitful).halt.phase ≠ .live live := by
  intro live hlive
  rw [halt] at hlive
  split at hlive
  · cases hlive
  · cases hlive

theorem receive_of_not_live (hphase : ∀ live, c.phase ≠ .live live) (item : Item) :
    c.receive react item = c := by
  rw [receive.eq_def]
  split
  · next hlive => exact absurd hlive (hphase _)
  · next hlive => exact absurd hlive (hphase _)
  · rfl

theorem Streaming.receive_error (h : Streaming react v given time c) (e : FeedError) :
    c.receive react (.error e) = (c.lose (!given.isEmpty)).halt := by
  simp only [receive, h.phase]

theorem Streaming.receive_ok (h : Streaming react v given time c) (batch : List TxResult) :
    c.receive react (.ok batch) = c.deliver react batch := by
  simp only [receive, h.phase]

theorem Streaming.finish (h : Streaming react v given time c) :
    c.finish = (c.lose (!given.isEmpty)).halt := by
  rw [Consumer.finish, h.phase]

theorem finish_lose_halt (fruitful : Bool) (c : Consumer β) :
    (c.lose fruitful).halt.finish = (c.lose fruitful).halt := by
  rw [Consumer.finish.eq_def]
  split
  · next live hlive => exact absurd hlive (phase_lose_halt fruitful c live)
  · rw [halt]
    split <;> rfl

theorem Streaming.items (h : Streaming react v given time c) (items : List Item) :
    ∃ d, Streaming react v (given ++ taken items) time d ∧ items.foldl (receive react) c =
      if items.all Except.isOk then d else (d.lose (!(given ++ taken items).isEmpty)).halt := by
  induction items generalizing given c with
  | nil => exact ⟨c, by rwa [taken_nil, List.append_nil], rfl⟩
  | cons item items ih =>
    rw [List.foldl_cons]
    cases item with
    | error e =>
      rw [h.receive_error, List.foldl_fixed' (receive_of_not_live (phase_lose_halt _ c)), taken_error,
        List.append_nil]
      exact ⟨c, h, rfl⟩
    | ok batch =>
      rw [h.receive_ok, taken_ok, List.append_cons]
      exact ih (h.deliver batch)

theorem Streaming.arrivals (h : Streaming react v given time c) (hopen : c.hub.closed = false)
    (arrivals : List (ℕ × Item)) :
    (∃ before batch, before ++ [batch] <+: taken (arrivals.map Prod.snd) ∧
      Cut react v (given ++ before) [batch] false (c.run react (arrive arrivals))) ∨
    ∃ d, Streaming react v (given ++ taken (arrivals.map Prod.snd)) (time + lasting arrivals) d ∧
      d.hub.closed = false ∧ c.run react (arrive arrivals) = reconnect react d.now c.plan
        (d.lose (!(given ++ taken (arrivals.map Prod.snd)).isEmpty)) := by
  induction arrivals generalizing given time c with
  | nil =>
    refine .inr ⟨c, by simpa [lasting] using h, hopen, ?_⟩
    change c.finish.settle react = _
    rw [h.finish, halt_of_open (c := c.lose _) hopen, List.map_nil, taken_nil, List.append_nil]
    rfl
  | cons arrival arrivals ih =>
    obtain ⟨more, item⟩ := arrival
    obtain ⟨hpassed, hplan⟩ := h.pass more
    have hstill : (c.pass react more).hub.closed = false := by
      rw [hpassed.hub, ← h.hub, hopen]
    rw [← hplan]
    cases item with
    | error e =>
      refine .inr ⟨c.pass react more, by simpa [lasting] using hpassed, hstill, ?_⟩
      change (c.pass react more).push react (.error e) = _
      rw [push, hpassed.receive_error, List.map_cons, taken_error, List.append_nil]
      rw [finish_lose_halt, halt_of_open (c := (c.pass react more).lose _) hstill]
      rfl
    | ok batch =>
      change (∃ before last, _ ∧ Cut react v _ [last] false
          (((c.pass react more).push react (.ok batch)).run react (arrive arrivals))) ∨
        ∃ d, Streaming react v _ (time + (more + lasting arrivals)) d ∧ _ ∧
          ((c.pass react more).push react (.ok batch)).run react (arrive arrivals) = _
      have hgiven := hpassed.deliver batch
      rw [push, hpassed.receive_ok, List.map_cons, taken_ok, ← Nat.add_assoc]
      cases hclosed : ((c.pass react more).deliver react batch).hub.closed with
      | true =>
        have hbefore : (v.deliverAll react given).hub.closed = false := by rw [← h.hub, hopen]
        refine .inl ⟨[], batch, List.prefix_append [batch] _, ?_⟩
        rw [List.append_nil]
        exact ((hgiven.cut hbefore hclosed).1.reconnect _ _).run (act?_arrive arrivals)
      | false =>
        rw [halt_of_open hclosed, settle_of_not_waiting (by simp [hgiven.phase])]
        rw [List.append_cons]
        rcases ih hgiven hclosed with ⟨before, last, hlast, hcut⟩ | hstream
        · refine .inl ⟨batch :: before, last, (List.prefix_cons_inj batch).2 hlast, ?_⟩
          rwa [List.append_cons]
        · exact .inr hstream

/-! ### A whole connection -/

theorem streaming_opened (react : Behaviour β) (v : Consumer β) : Streaming react v [] 0 v.opened :=
  ⟨⟨rfl, rfl, rfl, rfl, rfl⟩, rfl, rfl⟩

theorem connect_stream (react : Behaviour β) (v : Consumer β) (items : List Item) (stays : Bool) :
    v.connect react (.stream items stays) = if stays then (items.foldl (receive react) v.opened).halt
      else (items.foldl (receive react) v.opened).finish := rfl

/-- What a connection comes to: the consumer stops in it, or loses the stream and goes on as planned. -/
def Comes (react : Behaviour β) (v : Consumer β) (o : Outcome) (plan : List Opening)
    (c : Consumer β) : Prop :=
  (∃ before wave lost, o.Brings before wave lost ∧ Cut react v before wave lost c) ∨
    ∃ d, Streaming react v o.batches o.duration d ∧ d.hub.closed = false ∧
      c = reconnect react d.now plan (d.lose (!o.batches.isEmpty))

theorem halt_halt (c : Consumer β) : c.halt.halt = c.halt := by
  cases hclosed : c.hub.closed with
  | true =>
    rw [halt_of_closed hclosed]
    exact halt_of_closed hclosed
  | false => rw [halt_of_open hclosed, halt_of_open hclosed]

section connection

variable {d : Consumer β} {items : List Item}

theorem comes_of_lost {o : Outcome} (hstream : Streaming react v given 0 d)
    (hopen : v.hub.closed = false) (hbatches : o.batches = given) (hduration : o.duration = 0)
    (hbrings : o.Brings [] given true) (plan : List Opening) :
    Comes react v o plan (reconnect react v.now plan (d.lose (!given.isEmpty)).halt) := by
  cases hclosed : d.hub.closed with
  | true =>
    have hbefore : (v.deliverAll react []).hub.closed = false := hopen
    have hcut : Cut react v [] given true (d.lose (!given.isEmpty)).halt :=
      (hstream.cut hbefore hclosed).2 _
    exact .inl ⟨[], given, true, hbrings, hcut.reconnect v.now plan⟩
  | false =>
    refine .inr ⟨d, ?_, hclosed, ?_⟩
    · rwa [hbatches, hduration]
    · rw [halt_of_open (c := d.lose _) hclosed, hbatches, hstream.now]
      rfl

theorem comes_burst (hopen : v.hub.closed = false) (items : List Item) (plan : List Opening) :
    Comes react v (.burst items) plan
      (reconnect react v.now plan (v.connect react (.stream items false))) := by
  obtain ⟨d, hstream, hitems⟩ := (streaming_opened react v).items items
  have hlost : v.connect react (.stream items false) = (d.lose (!(taken items).isEmpty)).halt := by
    rw [connect_stream, if_neg Bool.false_ne_true, hitems]
    split
    · exact hstream.finish
    · exact finish_lose_halt _ d
  rw [hlost]
  exact comes_of_lost hstream hopen rfl rfl (.burst items) plan

theorem comes_stream_failing (hopen : v.hub.closed = false)
    (hfailing : items.all Except.isOk = false) (arrivals : List (ℕ × Item)) (plan : List Opening) :
    Comes react v (.stream items arrivals) plan
      (reconnect react v.now plan (v.connect react (.stream items true))) := by
  obtain ⟨d, hstream, hitems⟩ := (streaming_opened react v).items items
  have hlost : v.connect react (.stream items true) = (d.lose (!(taken items).isEmpty)).halt := by
    rw [connect_stream, if_pos rfl, hitems, hfailing, if_neg Bool.false_ne_true, halt_halt]
    rfl
  have hbatches : (Outcome.stream items arrivals).batches = taken items := by
    rw [Outcome.batches, Outcome.items, taken_append, hfailing, if_neg Bool.false_ne_true,
      List.append_nil]
  have hduration : (Outcome.stream items arrivals).duration = 0 := by
    rw [Outcome.duration, hfailing, if_neg Bool.false_ne_true]
  have hbrings := Outcome.Brings.prompt items arrivals
  rw [hfailing] at hbrings
  rw [hlost]
  exact comes_of_lost hstream hopen hbatches hduration hbrings plan

theorem comes_stream_lasting (hopen : v.hub.closed = false)
    (hlasting : items.all Except.isOk = true) (arrivals : List (ℕ × Item)) (plan : List Opening) :
    Comes react v (.stream items arrivals) plan
      ((reconnect react v.now plan (v.connect react (.stream items true))).run react
        (arrive arrivals)) := by
  obtain ⟨d, hstream, hitems⟩ := (streaming_opened react v).items items
  have hstays : v.connect react (.stream items true) = d.halt := by
    rw [connect_stream, if_pos rfl, hitems, hlasting, if_pos rfl]
  rw [hstays]
  cases hclosed : d.hub.closed with
  | true =>
    have hbefore : (v.deliverAll react []).hub.closed = false := hopen
    have hcut : Cut react v [] (taken items) false d.halt := (hstream.cut hbefore hclosed).1
    have hbrings := Outcome.Brings.prompt items arrivals
    rw [hlasting] at hbrings
    exact .inl ⟨_, _, _, hbrings, (hcut.reconnect v.now plan).run (act?_arrive arrivals)⟩
  | false =>
    have hplanned : Streaming react v (taken items) 0 { d with plan } :=
      ⟨{ hstream.toHanded with }, hstream.now, hstream.phase⟩
    rw [halt_of_open hclosed, reconnect_of_due?_eq_none (by simp [due?, hstream.phase])]
    rcases hplanned.arrivals hclosed arrivals with ⟨before, batch, hbefore, hcut⟩ | hended
    · exact .inl ⟨_, _, _, .arrival hlasting hbefore, hcut⟩
    · have hbatches : (Outcome.stream items arrivals).batches =
          taken items ++ taken (arrivals.map Prod.snd) := by
        rw [Outcome.batches, Outcome.items, taken_append, hlasting, if_pos rfl]
      have hduration : (Outcome.stream items arrivals).duration = 0 + lasting arrivals := by
        rw [Outcome.duration, hlasting, if_pos rfl, Nat.zero_add]
      refine .inr ?_
      rwa [hbatches, hduration]

end connection

/-- A connection from beginning to end. What follows it is planned already. -/
theorem connection (o : Outcome) (plan : List Opening) (hopen : v.hub.closed = false) :
    Comes react v o plan
      ((reconnect react v.now plan (v.connect react o.opening)).run react o.inputs) := by
  cases o with
  | refused => exact .inr ⟨v.opened, streaming_opened react v, hopen, rfl⟩
  | burst items => exact comes_burst hopen items plan
  | stream items arrivals =>
    rw [Outcome.inputs]
    split
    · next hlasting => exact comes_stream_lasting hopen hlasting arrivals plan
    · next hfailing =>
      exact comes_stream_failing hopen (Bool.eq_false_iff.2 hfailing) arrivals plan

end Consumer
end Countersign.Feed
