import Countersign.Proofs.Connection
import Mathlib

/-! A consumer connects again after each connection, and waits before it does: twice as long for every
connection in a row that gave no batch, and within bounds. Over any sequence of connections the batches
handed over, the times of connecting and the count of reconnections are exact. -/

namespace Countersign.Feed

variable {β : Type} {react : Behaviour β}

/-- How many of the last connections in a row gave no batch, counted up to what 32 bits hold. -/
def streak (outcomes : List Outcome) : ℕ :=
  outcomes.foldl (fun r o => if o.batches.isEmpty then min (r + 1) (2 ^ 32 - 1) else 0) 0

namespace Settings

variable (s : Settings)

def backoff (r : ℕ) : ℕ :=
  min (s.delay.toNat * 2 ^ min r s.maxDoublings.toNat) (2 ^ 64 - 1)

def waits (outcomes : List Outcome) : List ℕ :=
  (List.range outcomes.length).map fun i => s.backoff (streak (outcomes.take (i + 1)))

/-- When each connection is made, and then the next one. -/
def schedule (outcomes : List Outcome) : List ℕ :=
  (List.zipWith (fun o w => o.duration + w) outcomes (s.waits outcomes)).scanl (· + ·) 0

/-- What is done from outside while these connections are made after the first ones, and waited
after. -/
def play (done : List Outcome) : List Outcome → List (Input β)
  | [] => []
  | o :: rest =>
    o.inputs ++ .pass (s.backoff (streak (done ++ [o]))) :: play (done ++ [o]) rest

end Settings

/-! ### The wait -/

theorem streak_concat (outcomes : List Outcome) (o : Outcome) :
    streak (outcomes ++ [o]) =
      if o.batches.isEmpty then min (streak outcomes + 1) (2 ^ 32 - 1) else 0 := by
  rw [streak, List.foldl_append]
  rfl

theorem streak_lt (outcomes : List Outcome) : streak outcomes < 2 ^ 32 := by
  induction outcomes using List.reverseRecOn with
  | nil => decide
  | append_singleton outcomes o ih =>
    rw [streak_concat]
    split <;> omega

theorem streak_le_append (before : List Outcome) {barren : List Outcome}
    (hbarren : ∀ o ∈ barren, o.batches = []) : streak before ≤ streak (before ++ barren) := by
  induction barren using List.reverseRecOn with
  | nil => rw [List.append_nil]
  | append_singleton barren o ih =>
    have hlast : o.batches = [] := hbarren o (by simp)
    have hinit := ih fun o ho => hbarren o (List.mem_append_left _ ho)
    have hlt := streak_lt before
    rw [← List.append_assoc, streak_concat, hlast, List.isEmpty_nil, if_pos rfl]
    omega

namespace Settings

variable (s : Settings)

theorem backoff_mono : Monotone s.backoff := by
  intro r r' hr
  have hpow : 2 ^ min r s.maxDoublings.toNat ≤ 2 ^ min r' s.maxDoublings.toNat :=
    Nat.pow_le_pow_right (by decide) (min_le_min_right _ hr)
  exact min_le_min_right _ (Nat.mul_le_mul_left _ hpow)

theorem backoff_lt (r : ℕ) : s.backoff r < 2 ^ 64 :=
  Nat.lt_of_le_of_lt (min_le_right _ _) (by decide)

/-- Doubling 64 times reaches the bound, so the doublings that are left out change nothing. -/
theorem wait_eq_backoff (failures : UInt32) : s.wait failures = s.backoff failures.toNat := by
  set k := min failures.toNat s.maxDoublings.toNat with hk
  change min (s.delay.toNat * 2 ^ min 64 k) (2 ^ 64 - 1) = min (s.delay.toNat * 2 ^ k) (2 ^ 64 - 1)
  rcases Nat.le_total k 64 with hle | hge
  · rw [Nat.min_eq_right hle]
  · rw [Nat.min_eq_left hge]
    rcases Nat.eq_zero_or_pos s.delay.toNat with hzero | hpos
    · rw [hzero, Nat.zero_mul, Nat.zero_mul]
    · have hmany : 2 ^ 64 ≤ s.delay.toNat * 2 ^ 64 := Nat.le_mul_of_pos_left _ hpos
      have hmore : s.delay.toNat * 2 ^ 64 ≤ s.delay.toNat * 2 ^ k :=
        Nat.mul_le_mul_left _ (Nat.pow_le_pow_right (by decide) hge)
      omega

theorem waits_concat (outcomes : List Outcome) (o : Outcome) :
    s.waits (outcomes ++ [o]) = s.waits outcomes ++ [s.backoff (streak (outcomes ++ [o]))] := by
  rw [waits, List.length_append, List.length_singleton, List.range_succ, List.map_append]
  have hinit : ∀ i ∈ List.range outcomes.length,
      s.backoff (streak ((outcomes ++ [o]).take (i + 1))) =
        s.backoff (streak (outcomes.take (i + 1))) := by
    intro i hi
    rw [List.take_append_of_le_length (List.mem_range.1 hi)]
  rw [List.map_congr_left hinit, List.map_singleton, List.take_of_length_le (by simp)]
  rfl

theorem length_waits (outcomes : List Outcome) : (s.waits outcomes).length = outcomes.length := by
  rw [waits, List.length_map, List.length_range]

theorem schedule_concat {outcomes : List Outcome} {earlier : List ℕ} {now : ℕ}
    (hschedule : earlier ++ [now] = s.schedule outcomes) (o : Outcome) :
    s.schedule (outcomes ++ [o]) =
      earlier ++ [now] ++ [now + (o.duration + s.backoff (streak (outcomes ++ [o])))] := by
  have hnow : (List.zipWith (fun o w => o.duration + w) outcomes (s.waits outcomes)).foldl
      (· + ·) 0 = now := by
    have hlast : (s.schedule outcomes).getLast? = some now := by
      rw [← hschedule, List.getLast?_concat]
    rw [schedule, List.getLast?_scanl] at hlast
    exact Option.some.inj hlast
  rw [hschedule, schedule, waits_concat, List.zipWith_append (s.length_waits outcomes).symm,
    List.scanl_append, hnow]
  rfl

theorem act?_play (done rest : List Outcome) :
    ∀ input ∈ (s.play done rest : List (Input β)), input.act? = none := by
  induction rest generalizing done with
  | nil => simp [play]
  | cons o rest ih =>
    intro input hinput
    rw [play, List.mem_append, List.mem_cons] at hinput
    rcases hinput with hinput | rfl | hinput
    · exact o.act?_inputs input hinput
    · rfl
    · exact ih (done ++ [o]) input hinput

end Settings

/-! ### Going on where a connection ended -/

namespace Consumer

variable {v c : Consumer β}

def Timely (c : Consumer β) : Prop :=
  ∀ due, c.phase = .waiting due → c.now ≤ due

theorem Timely.due?_eq {limit due : ℕ} (hc : c.Timely) (hnow : c.now = limit)
    (hdue : c.due? limit = some due) : due = limit := by
  rw [due?.eq_def] at hdue
  split at hdue
  · next later hphase =>
    split at hdue
    · have hlater := hc later hphase
      cases hdue
      omega
    · cases hdue
  · cases hdue

theorem timely_lose (fruitful : Bool) (c : Consumer β) :
    (c.lose fruitful).Timely ∧ (c.lose fruitful).now = c.now := by
  refine ⟨fun due hdue => ?_, rfl⟩
  cases hdue
  exact Nat.le_add_right _ _

theorem timely_halt (hc : c.Timely) : c.halt.Timely ∧ c.halt.now = c.now := by
  rw [halt]
  split
  · refine ⟨fun due hdue => ?_, rfl⟩
    cases hdue
  · exact ⟨hc, rfl⟩

theorem timely_receive (react : Behaviour β) (item : Item) (hc : c.Timely) :
    (c.receive react item).Timely ∧ (c.receive react item).now = c.now := by
  rw [receive.eq_def]
  split
  · refine ⟨fun due hdue => ?_, rfl⟩
    cases hdue
  · exact timely_halt (timely_lose _ c).1
  · exact ⟨hc, rfl⟩

theorem timely_items (react : Behaviour β) (items : List Item) (hc : c.Timely) :
    (items.foldl (receive react) c).Timely ∧ (items.foldl (receive react) c).now = c.now := by
  induction items generalizing c with
  | nil => exact ⟨hc, rfl⟩
  | cons item items ih =>
    obtain ⟨htimely, hnow⟩ := timely_receive react item hc
    exact hnow ▸ ih htimely

theorem timely_finish (hc : c.Timely) : c.finish.Timely ∧ c.finish.now = c.now := by
  rw [finish.eq_def]
  split
  · exact timely_halt (timely_lose _ c).1
  · exact ⟨hc, rfl⟩

theorem timely_connect (react : Behaviour β) (opening : Opening) (c : Consumer β) :
    (c.connect react opening).Timely ∧ (c.connect react opening).now = c.now := by
  cases opening with
  | refused => exact timely_lose false _
  | stream items stays =>
    have hopened : Timely { c with
        attempts := c.attempts ++ [c.now], phase := .live false, sourceOpen := true } := nofun
    have hitems := timely_items react items hopened
    rw [connect]
    dsimp only
    split
    · obtain ⟨htimely, hnow⟩ := timely_halt hitems.1
      exact ⟨htimely, hnow.trans hitems.2⟩
    · obtain ⟨htimely, hnow⟩ := timely_finish hitems.1
      exact ⟨htimely, hnow.trans hitems.2⟩

theorem due?_connect_open (react : Behaviour β) (limit : ℕ) (c : Consumer β) :
    (c.connect react (.stream [] true)).due? limit = none := by
  rw [connect_stream, if_pos rfl, List.foldl_nil, halt]
  split <;> rfl

theorem due?_reconnect (limit : ℕ) (plan : List Opening) (c : Consumer β) :
    (reconnect react limit plan c).due? limit = none := by
  fun_induction reconnect react limit plan c with
  | case1 c plan hdue => exact hdue
  | case2 c due hdue => exact due?_connect_open react limit { c with now := due }
  | case3 c due opening rest hdue ih => exact ih

theorem now_reconnect (limit : ℕ) (plan : List Opening) (hc : c.Timely) (hnow : c.now = limit) :
    (reconnect react limit plan c).now = limit := by
  fun_induction reconnect react limit plan c with
  | case1 c plan hdue => exact hnow
  | case2 c due hdue =>
    have hconnected := (timely_connect react (.stream [] true) { c with now := due }).2
    exact hconnected.trans (hc.due?_eq hnow hdue)
  | case3 c due opening rest hdue ih =>
    obtain ⟨htimely, hconnected⟩ := timely_connect react opening { c with now := due }
    exact ih htimely (hconnected.trans (hc.due?_eq hnow hdue))

theorem reconnect_ready (hphase : c.phase = .waiting c.now) (opening : Opening)
    (plan : List Opening) :
    reconnect react c.now (opening :: plan) c =
      reconnect react c.now plan (c.connect react opening) := by
  have hdue : c.due? c.now = some c.now := by simp only [due?, hphase, le_rfl, if_pos]
  rw [reconnect.eq_def]
  dsimp only
  rw [hdue]

theorem reconnect_unplanned (hphase : c.phase = .waiting c.now) :
    reconnect react c.now [] c =
      { c.connect react (.stream [] true) with plan := [] } := by
  have hdue : c.due? c.now = some c.now := by simp only [due?, hphase, le_rfl, if_pos]
  rw [reconnect.eq_def]
  dsimp only
  rw [hdue]

theorem with_now {now : ℕ} (hnow : c.now = now) : { c with now } = c := by
  rw [← hnow]

theorem pass_wait (react : Behaviour β) {w : ℕ} (hphase : v.phase = .waiting (v.now + w))
    (plan : List Opening) :
    ∃ stale, (reconnect react v.now plan v).pass react w =
      reconnect react (v.now + w) plan { v with plan := stale, now := v.now + w } := by
  have hdue : ∀ limit, v.due? limit = if v.now + w ≤ limit then some (v.now + w) else none :=
    fun limit => by simp only [due?, hphase]
  rcases Nat.eq_zero_or_pos w with rfl | hpos
  · -- without a wait the next connection was made at once
    have hv : v.Timely := fun due hwaiting => by
      rw [hphase] at hwaiting
      cases hwaiting
      exact Nat.le_add_right _ _
    have hnow : (reconnect react v.now plan v).now = v.now := now_reconnect v.now plan hv rfl
    refine ⟨v.plan, ?_⟩
    rw [Consumer.pass, hnow, Nat.add_zero, reconnect_of_due?_eq_none (due?_reconnect _ _ _)]
    exact with_now hnow
  · have hwaiting : reconnect react v.now plan v = { v with plan } :=
      reconnect_of_due?_eq_none (by rw [hdue, if_neg (by omega)]) plan
    have hlater : reconnect react (v.now + w) plan { v with plan } =
        reconnect react (v.now + w) plan { v with plan, now := v.now + w } := by
      cases plan <;> simp [reconnect, due?, hphase]
    have htimely : Timely { v with plan, now := v.now + w } := fun due h => by
      cases hphase.symm.trans h
      exact le_rfl
    refine ⟨plan, ?_⟩
    rw [hwaiting, Consumer.pass]
    dsimp only
    rw [hlater]
    exact with_now (now_reconnect _ _ htimely rfl)

end Consumer

/-! ### The account of a run -/

def delivered (react : Behaviour β) (s : Settings) (h : Hub β) (given : List (List TxResult)) :
    Consumer β :=
  ({ settings := s, hub := h } : Consumer β).deliverAll react given

/-- What is true after these connections of a consumer that began with the hub, whatever it does next. -/
structure Account (react : Behaviour β) (s : Settings) (h : Hub β) (outcomes : List Outcome)
    (c : Consumer β) : Prop where
  settings : c.settings = s
  failures : c.failures.toNat = streak outcomes
  hub : c.hub = (delivered react s h (outcomes.flatMap Outcome.batches)).hub
  metrics : c.metrics =
    { (delivered react s h (outcomes.flatMap Outcome.batches)).metrics with
      reconnections := outcomes.length }
  unclosed : c.hub.closed = false

structure Ready (react : Behaviour β) (s : Settings) (h : Hub β) (outcomes : List Outcome)
    (c : Consumer β) : Prop extends Account react s h outcomes c where
  phase : c.phase = .waiting c.now
  attempts : c.attempts ++ [c.now] = s.schedule outcomes

structure Listening (react : Behaviour β) (s : Settings) (h : Hub β) (outcomes : List Outcome)
    (c : Consumer β) : Prop extends Account react s h outcomes c where
  phase : c.phase = .live false
  attempts : c.attempts = s.schedule outcomes

/-- In the connection after these, some batches were delivered and then a wave of them that came at once,
during which a callback closed the hub, and that was the end; the stream may have been lost with it. -/
structure Interrupted (react : Behaviour β) (s : Settings) (h : Hub β) (outcomes : List Outcome)
    (before wave : List (List TxResult)) (lost : Bool) (c : Consumer β) : Prop where
  phase : c.phase = .stopped
  hub : c.hub = (delivered react s h (outcomes.flatMap Outcome.batches ++ (before ++ wave))).hub
  metrics : c.metrics =
    { (delivered react s h (outcomes.flatMap Outcome.batches ++ (before ++ wave))).metrics with
      reconnections := outcomes.length + lost.toNat }
  attempts : c.attempts = s.schedule outcomes
  unclosed : (delivered react s h (outcomes.flatMap Outcome.batches ++ before)).hub.closed = false
  closed : c.hub.closed = true

section Run

variable {s : Settings} {h : Hub β} {outcomes : List Outcome} {v c d : Consumer β}

theorem Account.deliverAll (hv : Account react s h outcomes v) (given : List (List TxResult)) :
    (v.deliverAll react given).hub =
        (delivered react s h (outcomes.flatMap Outcome.batches ++ given)).hub ∧
      (v.deliverAll react given).metrics =
        { (delivered react s h (outcomes.flatMap Outcome.batches ++ given)).metrics with
          reconnections := outcomes.length } := by
  rw [delivered, Consumer.deliverAll_append]
  exact Consumer.deliverAll_congr react given hv.hub hv.metrics

theorem Ready.interrupted (hv : Ready react s h outcomes v) {before wave : List (List TxResult)}
    {lost : Bool} (hc : Consumer.Cut react v before wave lost c) :
    Interrupted react s h outcomes before wave lost c := by
  obtain ⟨hhub, hmetrics⟩ := hv.deliverAll (before ++ wave)
  refine ⟨hc.stopped, hc.hub.trans hhub, ?_, ?_, ?_, hc.closed⟩
  · rw [hc.metrics, hmetrics, hv.metrics]
  · rw [hc.attempts, hv.attempts]
  · rw [← (hv.deliverAll before).1, hc.unclosed]

theorem failures_lose (hd : d.failures.toNat = streak outcomes) (o : Outcome) :
    (d.lose (!o.batches.isEmpty)).failures.toNat = streak (outcomes ++ [o]) := by
  have hbound : min (d.failures.toNat + 1) (2 ^ 32 - 1) < 2 ^ 32 :=
    Nat.lt_of_le_of_lt (min_le_right _ _) (by decide)
  rw [streak_concat, ← hd]
  cases hbatches : o.batches.isEmpty with
  | true => exact UInt32.toNat_ofNat_of_lt' hbound
  | false => rfl

theorem Ready.lose (hv : Ready react s h outcomes v) {o : Outcome}
    (hd : Consumer.Streaming react v o.batches o.duration d) (hopen : d.hub.closed = false) :
    let w := s.backoff (streak (outcomes ++ [o]))
    let c := d.lose (!o.batches.isEmpty)
    c.phase = .waiting (c.now + w) ∧
      ∀ plan, Ready react s h (outcomes ++ [o]) { c with plan, now := c.now + w } := by
  intro w c
  have hsettings : c.settings = s := hd.settings.trans hv.settings
  have hfailures : c.failures.toNat = streak (outcomes ++ [o]) :=
    failures_lose (by rw [hd.failures, hv.failures]) o
  have hwait : c.settings.wait c.failures = w := by
    rw [Settings.wait_eq_backoff, hsettings, hfailures]
  have hphase : c.phase = .waiting (c.now + w) := by
    rw [← hwait]
    rfl
  have hbatches : (outcomes ++ [o]).flatMap Outcome.batches =
      outcomes.flatMap Outcome.batches ++ o.batches := by
    rw [List.flatMap_append, List.flatMap_singleton]
  obtain ⟨hhub, hmetrics⟩ := hv.deliverAll o.batches
  rw [← hbatches] at hhub hmetrics
  have hcounted : c.metrics =
      { d.metrics with reconnections := (outcomes ++ [o]).length } := by
    have hbefore : d.metrics.reconnections = outcomes.length := by
      rw [hd.metrics, hmetrics]
    rw [List.length_append, List.length_singleton, ← hbefore]
    rfl
  rw [hd.metrics, hmetrics] at hcounted
  have hattempts : c.attempts ++ [c.now + w] = s.schedule (outcomes ++ [o]) := by
    rw [s.schedule_concat hv.attempts, ← Nat.add_assoc, ← hd.now, ← hd.attempts]
    rfl
  exact ⟨hphase, fun plan =>
    ⟨⟨hsettings, hfailures, hd.hub.trans hhub, hcounted, hopen⟩, hphase, hattempts⟩⟩

/-- What a consumer comes to that is ready for the connections after the first ones: it takes them all,
or is interrupted in one. -/
theorem Ready.run (hv : Ready react s h outcomes v) (rest : List Outcome) :
    let c := (Consumer.reconnect react v.now (rest.map Outcome.opening) v).run react
      (s.play outcomes rest)
    Listening react s h (outcomes ++ rest) c ∨ ∃ first o others before wave lost,
      outcomes ++ rest = first ++ o :: others ∧ before ++ wave <+: o.batches ∧
        o.Brings before wave lost ∧ Interrupted react s h first before wave lost c := by
  induction rest generalizing outcomes v with
  | nil =>
    left
    have hconnected : v.connect react (.stream [] true) = v.opened :=
      Consumer.halt_of_open (c := v.opened) hv.unclosed
    rw [List.map_nil, List.append_nil, Consumer.reconnect_unplanned hv.phase, hconnected]
    exact ⟨⟨hv.settings, hv.failures, hv.hub, hv.metrics, hv.unclosed⟩, rfl, hv.attempts⟩
  | cons o rest ih =>
    intro c
    have hsplit : c = (((Consumer.reconnect react v.now (rest.map Outcome.opening)
        (v.connect react o.opening)).run react o.inputs).pass react
          (s.backoff (streak (outcomes ++ [o])))).run react (s.play (outcomes ++ [o]) rest) := by
      change (Consumer.reconnect react v.now (o.opening :: rest.map Outcome.opening) v).run react
        (o.inputs ++ .pass _ :: s.play (outcomes ++ [o]) rest) = _
      rw [Consumer.reconnect_ready hv.phase, Consumer.run, List.foldl_append]
      rfl
    rcases Consumer.connection o (rest.map Outcome.opening) hv.unclosed with
      ⟨before, wave, lost, hbrings, hcut⟩ | ⟨d, hd, hopen, hc⟩
    · have hstill : Consumer.Cut react v before wave lost c := by
        rw [hsplit]
        exact (hcut.step (.pass _) rfl).run (s.act?_play _ rest)
      exact .inr ⟨outcomes, o, rest, before, wave, lost, rfl, hbrings.isPrefix, hbrings,
        hv.interrupted hstill⟩
    · obtain ⟨hphase, hready⟩ := hv.lose hd hopen
      obtain ⟨stale, hpass⟩ := Consumer.pass_wait react hphase (rest.map Outcome.opening)
      have hnext := ih (hready stale)
      rw [← hpass] at hnext
      rw [hsplit, hc, List.append_cons]
      exact hnext

theorem ready_start (react : Behaviour β) (s : Settings) (hopen : h.closed = false)
    (openings : List Opening) :
    ∃ v : Consumer β, Ready react s h [] v ∧
      ({ settings := s, hub := h } : Consumer β).run react [.expect openings, .start] =
        Consumer.reconnect react v.now openings v :=
  ⟨{ settings := s, hub := h, plan := openings, phase := .waiting 0 },
    ⟨⟨rfl, rfl, rfl, rfl, hopen⟩, rfl, rfl⟩, rfl⟩

/-- Whatever comes of the connections of a consumer, its hub is handed the batches that each stream gives
before its first error, in order, and each wait is the one that the connections before it ask for; unless
a callback closes the hub, which is the end once the batches that came at once are taken. Nothing overflows, and no wait is shorter than one before it
when no batch came in between. -/
theorem connections_accounted (react : Behaviour β) (s : Settings) (hopen : h.closed = false)
    (outcomes : List Outcome) :
    let c := ({ settings := s, hub := h } : Consumer β).run react
      (.expect (outcomes.map Outcome.opening) :: .start :: s.play [] outcomes)
    (Listening react s h outcomes c ∨ ∃ first o others before wave lost,
      outcomes = first ++ o :: others ∧ before ++ wave <+: o.batches ∧
        o.Brings before wave lost ∧ Interrupted react s h first before wave lost c) ∧
    (∀ w ∈ s.waits outcomes, w < 2 ^ 64) ∧ streak outcomes < 2 ^ 32 ∧
    ∀ before barren, (∀ o ∈ barren, o.batches = []) →
      s.backoff (streak before) ≤ s.backoff (streak (before ++ barren)) := by
  intro c
  obtain ⟨v, hv, hstart⟩ := ready_start react s hopen (outcomes.map Outcome.opening)
  have hsplit : c = (Consumer.reconnect react v.now (outcomes.map Outcome.opening) v).run react
      (s.play [] outcomes) := by
    rw [← hstart]
    rfl
  have hrun := hv.run outcomes
  rw [← hsplit] at hrun
  refine ⟨hrun, fun w hw => ?_, streak_lt outcomes, fun before barren hbarren => ?_⟩
  · obtain ⟨i, -, rfl⟩ := List.mem_map.1 hw
    exact s.backoff_lt _
  · exact s.backoff_mono (streak_le_append before hbarren)

theorem connections_accounted_backedOff :
    let outcomes : List Outcome := [.refused, .burst [.error .closed, .ok []],
      .stream [.ok []] [(7, .ok []), (3, .error .closed)], .refused]
    let c := ({ settings := {}, hub := {} } : Consumer Unit).run (fun _ _ _ _ => {})
      (.expect (outcomes.map Outcome.opening) :: .start :: Settings.play {} [] outcomes)
    ({} : Hub Unit).closed = false ∧ Settings.waits {} outcomes = [1000, 2000, 500, 1000] ∧
      c.metrics.batches = 2 ∧ c.metrics.reconnections = 4 ∧
      c.attempts = [0, 1000, 3000, 3510, 4510] := by
  intro outcomes c
  have hnew : ({} : Hub Unit).closed = false := rfl
  have hopen : c.hub.closed = false := by decide +kernel
  have hlistening : Listening (fun _ _ _ _ => {}) {} {} outcomes c := by
    rcases (connections_accounted (fun _ _ _ _ => {}) {} hnew outcomes).1 with h | h
    · exact h
    · obtain ⟨first, o, others, before, wave, lost, -, -, -, hinterrupted⟩ := h
      cases hopen.symm.trans hinterrupted.closed
  refine ⟨hnew, by decide +kernel, ?_, ?_, ?_⟩
  · exact (congrArg Metrics.batches hlistening.metrics).trans (by decide +kernel)
  · exact (congrArg Metrics.reconnections hlistening.metrics).trans rfl
  · exact hlistening.attempts.trans (by decide +kernel)

end Run

end Countersign.Feed
