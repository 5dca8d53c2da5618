import Countersign.Proofs.Coins
import Countersign.Proofs.Transmissions
import Mathlib

/-! The three extractions from one receipt, side by side. They go through the same transmission events,
each of them found or skipped; a transmission asks more of its event than a round does, and nothing of
any other event. -/

namespace Countersign

variable {α : Type}

namespace Attributes

def values (attrs : Attributes) (key : String) : List String :=
  (attrs.get? key).getD []

def number? (read : List Char → Option α) (attrs : Attributes) (key : String) : Option α :=
  (values attrs key).head?.bind fun value => read (Text.trimmed value.toList)

def legible (read : List Char → Option α) (attrs : Attributes) (key : String) : Bool :=
  (values attrs key).head?.all fun value => (read (Text.trimmed value.toList)).isSome

/-- The numbers that a transmission may leave out are legible, and so are all observations. -/
def full (attrs : Attributes) : Bool :=
  legible Text.word32? attrs "aggregator_round_id" &&
    legible Text.word64? attrs "observations_timestamp" &&
    legible Text.unsigned? attrs "juels_per_fee_coin" &&
    legible Text.unsigned? attrs "reimbursement" &&
    (values attrs "observations").all fun value =>
      (Text.signed? (Text.trimmed value.toList)).isSome

end Attributes

structure Transmission.Reads (attrs : Attributes) (t : Transmission) : Prop where
  round : Round.decode attrs = .ok t.toRound
  contract : t.contract = (Attributes.values attrs "contract_address").head?
  aggregatorRoundId :
    t.aggregatorRoundId = Attributes.number? Text.word32? attrs "aggregator_round_id"
  transmitter : t.transmitter = (Attributes.values attrs "transmitter").head?
  configDigest : t.configDigest = (Attributes.values attrs "config_digest").head?
  observationsTimestamp :
    t.observationsTimestamp = Attributes.number? Text.word64? attrs "observations_timestamp"
  observers : t.observers = (Attributes.values attrs "observers").head?
  observations : (Attributes.values attrs "observations").map
    (fun value => Text.signed? (Text.trimmed value.toList)) = t.observations.map some
  juelsPerFeeCoin :
    t.juelsPerFeeCoin = Attributes.number? Text.unsigned? attrs "juels_per_fee_coin"
  reimbursement : t.reimbursement = Attributes.number? Text.unsigned? attrs "reimbursement"

/-! ### One event -/

theorem toOption_eq_some {ε : Type} {x : Except ε α} {a : α} : x.toOption = some a ↔ x = .ok a := by
  cases x <;> simp [Except.toOption]

theorem bind_eq_error {ε β : Type} {x : Except ε α} {f : α → Except ε β} {e : ε} :
    x >>= f = .error e ↔ x = .error e ∨ ∃ a, x = .ok a ∧ f a = .error e := by
  cases x <;> simp [bind, Except.bind]

theorem all_isSome_iff {β : Type} {f : α → Option β} {as : List α} :
    as.all (fun a => (f a).isSome) = true ↔ ∃ bs : List β, as.map f = bs.map some := by
  have hrange : as.map f ∈ Set.range (List.map some) ↔ ∀ b ∈ as.map f, b ∈ Set.range some := by
    rw [Set.range_list_map]
    rfl
  simp only [Set.mem_range, List.forall_mem_map] at hrange
  simp only [List.all_eq_true, Option.isSome_iff_exists, @eq_comm _ (f _), @eq_comm _ (as.map f)]
  exact hrange.symm

namespace Attributes

theorem text?_eq (attrs : Attributes) (key : String) :
    text? attrs key = (values attrs key).head? := by
  unfold text? values
  cases attrs.get? key <;> rfl

theorem optional_eq_ok {read : List Char → Option α} {attrs : Attributes} {key : String}
    {a : Option α} : optional read attrs key = .ok a ↔
      legible read attrs key = true ∧ a = number? read attrs key := by
  unfold optional legible number?
  rw [text?_eq]
  cases (values attrs key).head? with
  | none => simp [eq_comm]
  | some value =>
    simp only [integer, Option.all_some, Option.bind_some]
    cases read (Text.trimmed value.toList) with
    | none => simp [Except.map]
    | some n => simp [Except.map, eq_comm]

theorem mapM_integer_eq_ok {read : List Char → Option α} {key : String} {texts : List String}
    {as : List α} : texts.mapM (integer read key) = .ok as ↔
      texts.map (fun value => read (Text.trimmed value.toList)) = as.map some := by
  induction texts generalizing as with
  | nil => cases as <;> simp [pure, Except.pure]
  | cons value rest ih =>
    rw [List.mapM_cons]
    simp only [bind_eq_ok, ih, pure, Except.pure, Except.ok.injEq]
    cases as with
    | nil => cases read (Text.trimmed value.toList) <;> simp [integer]
    | cons a as =>
      rw [List.map_cons, List.map_cons, List.cons.injEq]
      cases hread : read (Text.trimmed value.toList) with
      | none => simp [integer, hread]
      | some n => simp [integer, hread, and_comm]

end Attributes

theorem Transmission.decode_eq_ok {attrs : Attributes} {t : Transmission} :
    decode attrs = .ok t ↔ Attributes.full attrs = true ∧ Reads attrs t := by
  unfold decode Attributes.full
  simp only [bind_eq_ok, Attributes.optional_eq_ok, Attributes.mapM_integer_eq_ok, pure, Except.pure,
    Except.ok.injEq, Bool.and_eq_true, all_isSome_iff, Attributes.text?_eq]
  constructor
  · rintro ⟨base, hbase, observations, hobservations, id, ⟨hid, rfl⟩, time, ⟨htime, rfl⟩, juels,
      ⟨hjuels, rfl⟩, paid, ⟨hpaid, rfl⟩, rfl⟩
    exact ⟨⟨⟨⟨⟨hid, htime⟩, hjuels⟩, hpaid⟩, observations, hobservations⟩,
      ⟨hbase, rfl, rfl, rfl, rfl, rfl, rfl, hobservations, rfl, rfl⟩⟩
  · rintro ⟨⟨⟨⟨⟨hid, htime⟩, hjuels⟩, hpaid⟩, -⟩, ht⟩
    refine ⟨t.toRound, ht.round, t.observations, ht.observations, _, ⟨hid, rfl⟩, _, ⟨htime, rfl⟩, _,
      ⟨hjuels, rfl⟩, _, ⟨hpaid, rfl⟩, ?_⟩
    rw [← ht.contract, ← ht.aggregatorRoundId, ← ht.transmitter, ← ht.configDigest,
      ← ht.observationsTimestamp, ← ht.observers, ← ht.juelsPerFeeCoin, ← ht.reimbursement]
    rfl

theorem Transmission.toRound_decode (attrs : Attributes) :
    (decode attrs).toOption.map toRound =
      if Attributes.full attrs then (Round.decode attrs).toOption else none := by
  cases hdecode : decode attrs with
  | ok t =>
    obtain ⟨hfull, ht⟩ := decode_eq_ok.1 hdecode
    rw [if_pos hfull, ht.round]
    rfl
  | error e =>
    split
    · next hfull =>
      cases hround : Round.decode attrs with
      | error e => rfl
      | ok r =>
        -- the rest of the record is there, so it would have been decoded
        have hobservations := hfull
        simp only [Attributes.full, Bool.and_eq_true, all_isSome_iff] at hobservations
        obtain ⟨-, observations, hobservations⟩ := hobservations
        have hread := decode_eq_ok.2 ⟨hfull, show Reads attrs
          { contract := _, aggregatorRoundId := _, answer := r.answer, round := r.round,
            epoch := r.epoch, transmitter := _, configDigest := _, observationsTimestamp := _,
            observers := _, observations, juelsPerFeeCoin := _, reimbursement := _ } from
          ⟨hround, rfl, rfl, rfl, rfl, rfl, rfl, hobservations, rfl, rfl⟩⟩
        rw [hdecode] at hread
        cases hread
    · rfl

theorem Transmission.decode_of_round_error {attrs : Attributes} {e : DecodeError}
    (h : Round.decode attrs = .error e) : decode attrs = .error e := by
  rw [decode, h]
  rfl

theorem SourcedRound.decode_eq (attrs : Attributes) : decode attrs =
    (Round.decode attrs).map fun round =>
      { round, contract := (Attributes.values attrs "contract_address").head? } := by
  rw [decode, Attributes.text?_eq]
  cases Round.decode attrs <;> rfl

/-! ### All events -/

namespace Extraction

variable {decode : Attributes → Except DecodeError α}

def fault? (decode : Attributes → Except DecodeError α) (event : Attributes × ℕ) :
    Option (ℕ × DecodeError) :=
  match decode event.1 with
  | .ok _ => none
  | .error e => some (event.2, e)

theorem fault?_eq_some {attrs : Attributes} {i j : ℕ} {e : DecodeError} :
    fault? decode (attrs, i) = some (j, e) ↔ i = j ∧ decode attrs = .error e := by
  unfold fault?
  cases decode attrs <;> simp

theorem skipped_decodeFrom (decode : Attributes → Except DecodeError α) (position : ℕ)
    (events : List Attributes) : (decodeFrom decode position events).skipped =
      (events.zipIdx position).filterMap (fault? decode) := by
  induction events generalizing position with
  | nil => rfl
  | cons attrs rest ih =>
    rw [decodeFrom, List.zipIdx_cons, List.filterMap_cons, fault?, ← ih (position + 1)]
    cases decode attrs <;> rfl

theorem length_decodeFrom (decode : Attributes → Except DecodeError α) (position : ℕ)
    (events : List Attributes) : events.length =
      (decodeFrom decode position events).found.length +
        (decodeFrom decode position events).skipped.length := by
  induction events generalizing position with
  | nil => rfl
  | cons attrs rest ih =>
    have hrest := ih (position + 1)
    rw [decodeFrom]
    cases decode attrs with
    | ok a =>
      simp only [List.length_cons]
      omega
    | error e =>
      simp only [List.length_cons]
      omega

/-- Every transmission event is found or skipped, and those that are skipped are listed in order, each
with its position and its fault. -/
structure Accounts (decode : Attributes → Except DecodeError α) (groups : List EventGroup)
    (x : Extraction α) : Prop where
  found : x.found = (transmissionEvents groups).filterMap fun attrs => (decode attrs).toOption
  count : transmissionCount groups = x.found.length + x.skipped.length
  ascending : (x.skipped.map Prod.fst).Pairwise (· < ·)
  mem_skipped : ∀ position e, (position, e) ∈ x.skipped ↔
    ∃ attrs, (transmissionEvents groups)[position]? = some attrs ∧ decode attrs = .error e

theorem accounts_of (decode : Attributes → Except DecodeError α) (groups : List EventGroup) :
    Accounts decode groups (of decode groups) where
  found := found_decodeFrom decode 0 (transmissionEvents groups)
  count := length_decodeFrom decode 0 (transmissionEvents groups)
  ascending := by
    have hindices : ((transmissionEvents groups).zipIdx 0).Pairwise fun a b => a.2 < b.2 := by
      rw [← List.pairwise_map, List.zipIdx_map_snd]
      exact List.pairwise_lt_range'
    rw [of, skipped_decodeFrom, List.pairwise_map]
    refine hindices.filterMap (fault? decode) ?_
    rintro ⟨attrs, i⟩ ⟨attrs', i'⟩ hlt ⟨j, e⟩ hj ⟨j', e'⟩ hj'
    obtain ⟨rfl, -⟩ := fault?_eq_some.1 hj
    obtain ⟨rfl, -⟩ := fault?_eq_some.1 hj'
    exact hlt
  mem_skipped position e := by
    rw [of, skipped_decodeFrom, List.mem_filterMap]
    simp only [Prod.exists, fault?_eq_some, List.mem_zipIdx_iff_getElem?]
    constructor
    · rintro ⟨attrs, i, hattrs, rfl, he⟩
      exact ⟨attrs, hattrs, he⟩
    · rintro ⟨attrs, hattrs, he⟩
      exact ⟨attrs, position, hattrs, rfl, he⟩

theorem filterMap_sublist {β γ : Type} {f g : β → Option γ} (h : ∀ b c, f b = some c → g b = some c)
    (bs : List β) : (bs.filterMap f).Sublist (bs.filterMap g) := by
  induction bs with
  | nil => exact .slnil
  | cons b bs ih =>
    rw [List.filterMap_cons, List.filterMap_cons]
    cases hf : f b with
    | some c =>
      rw [h b c hf]
      exact ih.cons_cons c
    | none =>
      cases g b with
      | none => exact ih
      | some c => exact ih.cons c

theorem forall₂_filterMap {β γ : Type} (f : β → Option γ) (bs : List β) :
    List.Forall₂ (fun b c => f b = some c) (bs.filter fun b => (f b).isSome) (bs.filterMap f) := by
  induction bs with
  | nil => exact .nil
  | cons b bs ih =>
    rw [List.filter_cons, List.filterMap_cons]
    cases hf : f b with
    | none => simpa using ih
    | some c => simpa using ⟨hf, ih⟩

end Extraction

/-! ### The three extractions -/

variable (groups : List EventGroup)

theorem found_sourced :
    (extractSourcedRounds groups).found.map SourcedRound.round = (extractRounds groups).found := by
  have hsourced := (Extraction.accounts_of SourcedRound.decode groups).found
  have hrounds := (Extraction.accounts_of Round.decode groups).found
  rw [extractSourcedRounds, extractRounds, hsourced, hrounds, List.map_filterMap]
  apply congrArg (List.filterMap · (transmissionEvents groups))
  funext attrs
  rw [SourcedRound.decode_eq]
  cases Round.decode attrs <;> rfl

theorem skipped_sourced :
    (extractSourcedRounds groups).skipped = (extractRounds groups).skipped := by
  unfold extractSourcedRounds extractRounds Extraction.of
  rw [Extraction.skipped_decodeFrom, Extraction.skipped_decodeFrom]
  apply congrArg (List.filterMap · _)
  funext ⟨attrs, i⟩
  rw [Extraction.fault?, Extraction.fault?, SourcedRound.decode_eq]
  cases Round.decode attrs <;> rfl

theorem found_transmissions : (extractTransmissions groups).found.map Transmission.toRound =
    ((transmissionEvents groups).filter Attributes.full).filterMap fun attrs =>
      (Round.decode attrs).toOption := by
  have hfound := (Extraction.accounts_of Transmission.decode groups).found
  rw [extractTransmissions, hfound, List.map_filterMap, List.filterMap_filter]
  simp only [Transmission.toRound_decode]

theorem found_transmissions_sublist :
    ((extractTransmissions groups).found.map Transmission.toRound).Sublist
      (extractRounds groups).found := by
  have hrounds := (Extraction.accounts_of Round.decode groups).found
  rw [found_transmissions, extractRounds, hrounds]
  exact List.filter_sublist.filterMap _

theorem skipped_rounds_sublist :
    (extractRounds groups).skipped.Sublist (extractTransmissions groups).skipped := by
  unfold extractTransmissions extractRounds Extraction.of
  rw [Extraction.skipped_decodeFrom, Extraction.skipped_decodeFrom]
  apply Extraction.filterMap_sublist
  rintro ⟨attrs, i⟩ ⟨j, e⟩ h
  obtain ⟨hi, he⟩ := Extraction.fault?_eq_some.1 h
  exact Extraction.fault?_eq_some.2 ⟨hi, Transmission.decode_of_round_error he⟩

theorem forall₂_reads : List.Forall₂ Transmission.Reads
    ((transmissionEvents groups).filter fun attrs =>
      Attributes.full attrs && (Round.decode attrs).toOption.isSome)
    (extractTransmissions groups).found := by
  have hkept : ∀ attrs, (Attributes.full attrs && (Round.decode attrs).toOption.isSome) =
      (Transmission.decode attrs).toOption.isSome := by
    intro attrs
    have hround := congrArg Option.isSome (Transmission.toRound_decode attrs)
    rw [Option.isSome_map] at hround
    rw [hround]
    cases Attributes.full attrs <;> rfl
  have hfound := (Extraction.accounts_of Transmission.decode groups).found
  rw [extractTransmissions, hfound]
  simp only [hkept]
  refine (Extraction.forall₂_filterMap _ _).imp fun attrs t ht => ?_
  exact (Transmission.decode_eq_ok.1 (toOption_eq_some.1 ht)).2

/-- Each of the three extractions accounts for every transmission event, and where they read the same
of an event they agree. -/
structure ExtractionsAgree : Prop where
  rounds : Extraction.Accounts Round.decode groups (extractRounds groups)
  sourcedRounds : Extraction.Accounts SourcedRound.decode groups (extractSourcedRounds groups)
  transmissions : Extraction.Accounts Transmission.decode groups (extractTransmissions groups)
  sourced : (extractSourcedRounds groups).found.map SourcedRound.round = (extractRounds groups).found
  sourced_skipped : (extractSourcedRounds groups).skipped = (extractRounds groups).skipped
  projected : (extractTransmissions groups).found.map Transmission.toRound =
    ((transmissionEvents groups).filter Attributes.full).filterMap fun attrs =>
      (Round.decode attrs).toOption
  projected_sublist : ((extractTransmissions groups).found.map Transmission.toRound).Sublist
    (extractRounds groups).found
  skipped_sublist : (extractRounds groups).skipped.Sublist (extractTransmissions groups).skipped
  own : List.Forall₂ Transmission.Reads
    ((transmissionEvents groups).filter fun attrs =>
      Attributes.full attrs && (Round.decode attrs).toOption.isSome)
    (extractTransmissions groups).found

/-! ### One group -/

theorem Attributes.required_ne_missingEvent (read : List Char → Option α) (attrs : Attributes)
    (key event : String) : required read attrs key ≠ .error (.missingEvent event) := by
  unfold required integer
  intro h
  split at h
  · split at h <;> cases h
  · cases h

theorem Round.decode_ne_missingEvent (attrs : Attributes) (event : String) :
    decode attrs ≠ .error (.missingEvent event) := by
  unfold decode
  simp [bind_eq_error, Attributes.required_ne_missingEvent, pure, Except.pure]

theorem Round.ofGroup_eq (g : EventGroup) : ofGroup g =
    (transmissionEvents [g]).head?.elim (.error (.missingEvent newTransmission)) decode := by
  rw [transmissionEvents, List.flatMap_singleton, ofGroup]
  cases g.occurrences newTransmission <;> rfl

theorem Round.ofGroup_eq_missingEvent_iff (g : EventGroup) :
    (∃ event, ofGroup g = .error (.missingEvent event)) ↔ transmissionEvents [g] = [] := by
  rw [ofGroup_eq]
  cases transmissionEvents [g] with
  | nil => exact iff_of_true ⟨newTransmission, rfl⟩ rfl
  | cons attrs rest =>
    refine iff_of_false ?_ (List.cons_ne_nil attrs rest)
    rintro ⟨event, h⟩
    exact decode_ne_missingEvent attrs event h

theorem forall₂_transmissionEvents (results : List TxResult) :
    List.Forall₂ (fun attrs e =>
        (∀ key, Attributes.values attrs key = Attribute.valuesOf key e.attributes) ∧
          (Round.decode attrs).toOption = Round.ofEvent? e)
      (transmissionEvents (Receipt.ofResults results).groups)
      (Event.ofKind newTransmission (results.flatMap TxResult.events)) := by
  rw [transmissionEvents_results, List.forall₂_map_left_iff, List.forall₂_same]
  exact fun e _ => ⟨fun key => Attributes.getD_ofList key e.attributes, Round.decode_ofList e⟩

/-- Whatever groups are decoded, the extractions from them agree; from one group the first transmission
alone may be taken; and what an event in them states is what it stated in its result. -/
theorem transmissions_accounted :
    (∀ groups : List EventGroup, ExtractionsAgree groups) ∧
    (∀ g : EventGroup,
      Round.ofGroup g = (transmissionEvents [g]).head?.elim
        (.error (.missingEvent newTransmission)) Round.decode ∧
      ((∃ event, Round.ofGroup g = .error (.missingEvent event)) ↔ transmissionEvents [g] = [])) ∧
    ∀ results : List TxResult, List.Forall₂ (fun attrs e =>
        (∀ key, Attributes.values attrs key = Attribute.valuesOf key e.attributes) ∧
          (Round.decode attrs).toOption = Round.ofEvent? e)
      (transmissionEvents (Receipt.ofResults results).groups)
      (Event.ofKind newTransmission (results.flatMap TxResult.events)) := by
  refine ⟨fun groups => ?_, fun g => ⟨Round.ofGroup_eq g, Round.ofGroup_eq_missingEvent_iff g⟩,
    forall₂_transmissionEvents⟩
  exact {
    rounds := Extraction.accounts_of Round.decode groups
    sourcedRounds := Extraction.accounts_of SourcedRound.decode groups
    transmissions := Extraction.accounts_of Transmission.decode groups
    sourced := found_sourced groups
    sourced_skipped := skipped_sourced groups
    projected := found_transmissions groups
    projected_sublist := found_transmissions_sublist groups
    skipped_sublist := skipped_rounds_sublist groups
    own := forall₂_reads groups }

example :
    let report (observation : String) : Event := ⟨newTransmission, [⟨"answer", "-7"⟩, ⟨"round", "1"⟩,
      ⟨"epoch", "2"⟩, ⟨"observations", "-8"⟩, ⟨"observations", observation⟩]⟩
    let groups := (Receipt.ofResults [{ events := [report " 6 "] }, { events := [report "x"] }]).groups
    (extractRounds groups).found = [⟨-7, 1, 2⟩, ⟨-7, 1, 2⟩] ∧
      (extractTransmissions groups).found.map Transmission.observations = [[-8, 6]] ∧
      (extractTransmissions groups).skipped = [(1, .invalidInteger "observations" "x")] := by
  decide +kernel

end Countersign
