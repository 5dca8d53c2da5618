import Countersign.Feed.Frame
import Mathlib

/-! What comes of the frames of a socket. Up to the first frame that ends the stream, every text frame
gives its batch and every ping its answer, in order; that frame gives one error, and nothing after it
is looked at. -/

namespace Countersign.Feed

namespace Frame

def ending? (query : String) : Frame → Option FeedError
  | .text content =>
    match itemOf? query content with
    | some (.error e) => some e
    | _ => none
  | .close | .cut => some .closed
  | .binary _ | .ping _ | .pong _ => none

def batch? (query : String) : Frame → Option (List TxResult)
  | .text content => (itemOf? query content).bind Except.toOption
  | _ => none

def ping? : Frame → Option (List UInt8)
  | .ping payload => some payload
  | _ => none

def preview? : Frame → Option String
  | .text content => some (Feed.preview content)
  | _ => none

/-- Nothing comes of the frame: it is not of text, or its text is neither a transaction nor an error. -/
def Idle (query : String) : Frame → Prop
  | .text content => itemOf? query content = none
  | .binary _ | .pong _ => True
  | .ping _ | .close | .cut => False

end Frame

def leading (query : String) (frames : List Frame) : List Frame :=
  frames.takeWhile fun f => (f.ending? query).isNone

def firstEnding? (query : String) (frames : List Frame) : Option FeedError :=
  frames.findSome? (Frame.ending? query)

def examined (query : String) (frames : List Frame) : List Frame :=
  leading query frames ++ (frames.find? fun f => (f.ending? query).isSome).toList

variable {query : String} {frames : List Frame} {l : Link}

/-! ### One frame -/

theorem itemOf?_eq_error {content : String} {e : FeedError} :
    itemOf? query content = some (.error e) ↔ ∃ v reported, Json.parse? content = some v ∧
      v.get? "error" = some reported ∧ e = .subscriptionRejected query (rejection reported) := by
  rw [itemOf?]
  cases Json.parse? content with
  | none => simp
  | some v =>
    cases hreported : v.get? "error" with
    | none => simp [hreported, Option.bind_eq_some_iff]
    | some reported => simp [hreported, eq_comm]

def transaction? (v : Json) : Option Json :=
  ["result", "data", "value", "TxResult", "result"].foldlM (fun v key => v.get? key) v

theorem itemOf?_eq_none {content : String} :
    itemOf? query content = none ↔ ∀ v, Json.parse? content = some v →
      v.get? "error" = none ∧ ∀ result, transaction? v = some result → batchOf? result = none := by
  rw [itemOf?]
  cases Json.parse? content with
  | none => simp
  | some v =>
    cases hreported : v.get? "error" with
    | none =>
      simp only [hreported, Option.bind_eq_bind, Option.bind_some, Option.some.injEq, forall_eq',
        true_and]
      change (transaction? v).bind _ = none ↔ _
      cases transaction? v with
      | none => simp
      | some result => cases hbatch : batchOf? result <;> simp [hbatch]
    | some reported => simp [hreported]

theorem Frame.ending?_eq_some {f : Frame} {e : FeedError} :
    f.ending? query = some e ↔ (f = .close ∨ f = .cut) ∧ e = .closed ∨
      ∃ content v reported, f = .text content ∧ Json.parse? content = some v ∧
        v.get? "error" = some reported ∧ e = .subscriptionRejected query (rejection reported) := by
  cases f with
  | text content =>
    have hitem : Frame.ending? query (.text content) = some e ↔
        itemOf? query content = some (.error e) := by
      rw [Frame.ending?]
      split
      · next hitem => rw [hitem]; simp
      · next hother => simpa using hother e
    rw [hitem, itemOf?_eq_error]
    simp
  | _ => simp [Frame.ending?, eq_comm]

theorem Frame.Idle.yields_nothing {f : Frame} (h : f.Idle query) :
    f.ending? query = none ∧ f.batch? query = none ∧ f.ping? = none := by
  cases f with
  | text content =>
    have hitem : itemOf? query content = none := h
    simp [Frame.ending?, Frame.batch?, Frame.ping?, hitem]
  | binary bytes => exact ⟨rfl, rfl, rfl⟩
  | pong payload => exact ⟨rfl, rfl, rfl⟩
  | _ => exact h.elim

theorem Link.take_eq (query : String) (hreading : l.reading = true) (f : Frame) :
    (l.take query f).items =
        l.items ++ (f.batch? query).toList.map .ok ++ (f.ending? query).toList.map .error ∧
      (l.take query f).pongs = l.pongs ++ f.ping?.toList ∧
      (l.take query f).previews = l.previews ++ f.preview?.toList ∧
      (l.take query f).reading = (f.ending? query).isNone := by
  cases f with
  | text content =>
    simp only [take, hreading, if_true, text, Frame.batch?, Frame.ending?, Frame.ping?,
      Frame.preview?]
    cases itemOf? query content with
    | none => simp
    | some item => cases item <;> simp [Except.toOption]
  | _ =>
    simp [take, lose, hreading, Frame.batch?, Frame.ending?, Frame.ping?, Frame.preview?]

theorem Link.take_of_not_reading (hreading : l.reading = false) (f : Frame) :
    l.take query f = l := by
  simp [take, hreading]

theorem Link.foldl_take_of_not_reading (hreading : l.reading = false) (frames : List Frame) :
    frames.foldl (take query) l = l :=
  List.foldl_fixed' (take_of_not_reading hreading) frames

/-! ### All frames -/

theorem leading_cons (f : Frame) (rest : List Frame) :
    leading query (f :: rest) =
      if f.ending? query = none then f :: leading query rest else [] := by
  cases hf : f.ending? query <;> simp [leading, hf]

theorem firstEnding?_cons (f : Frame) (rest : List Frame) :
    firstEnding? query (f :: rest) = (f.ending? query).or (firstEnding? query rest) := by
  cases hf : f.ending? query <;> simp [firstEnding?, hf]

theorem examined_cons (f : Frame) (rest : List Frame) :
    examined query (f :: rest) =
      f :: if f.ending? query = none then examined query rest else [] := by
  cases hf : f.ending? query <;> simp [examined, leading, hf]

theorem Frame.batch?_of_ending {f : Frame} {e : FeedError} (h : f.ending? query = some e) :
    f.batch? query = none ∧ f.ping? = none := by
  cases f with
  | text content =>
    rw [Frame.ending?] at h
    split at h
    · next hitem => simp [Frame.batch?, Frame.ping?, hitem, Except.toOption]
    · cases h
  | close => exact ⟨rfl, rfl⟩
  | cut => exact ⟨rfl, rfl⟩
  | _ => cases h

theorem Link.foldl_take (query : String) (hreading : l.reading = true) (frames : List Frame) :
    (frames.foldl (take query) l).items =
        l.items ++ ((leading query frames).filterMap (Frame.batch? query)).map .ok ++
          (firstEnding? query frames).toList.map .error ∧
      (frames.foldl (take query) l).pongs =
        l.pongs ++ (leading query frames).filterMap Frame.ping? ∧
      (frames.foldl (take query) l).previews =
        l.previews ++ (examined query frames).filterMap Frame.preview? ∧
      (frames.foldl (take query) l).reading = (firstEnding? query frames).isNone := by
  induction frames generalizing l with
  | nil => simp [leading, firstEnding?, examined, hreading]
  | cons f rest ih =>
    obtain ⟨hitems, hpongs, hpreviews, hstill⟩ := take_eq query hreading f
    rw [List.foldl_cons, leading_cons, firstEnding?_cons, examined_cons]
    simp only [List.filterMap_eq_flatMap_toList] at ih ⊢
    cases hf : f.ending? query with
    | some e =>
      obtain ⟨hbatch, hping⟩ := Frame.batch?_of_ending hf
      rw [hf] at hitems hstill
      rw [foldl_take_of_not_reading hstill, hitems, hpongs, hpreviews, hstill, hbatch, hping]
      simp
    | none =>
      rw [hf] at hitems hstill
      obtain ⟨hitems', hpongs', hpreviews', hreading'⟩ := ih hstill
      rw [hitems', hpongs', hpreviews', hreading', hitems, hpongs, hpreviews]
      simp

/-! ### The whole connection -/

/-- What has been sent, and how each text frame that was looked at began, when these frames have come. -/
structure Sent (query : String) (frames : List Frame) (l : Link) : Prop where
  items : l.items = ((leading query frames).filterMap (Frame.batch? query)).map .ok ++
    (firstEnding? query frames).toList.map .error
  pongs : l.pongs = (leading query frames).filterMap Frame.ping?
  previews : l.previews = (examined query frames).filterMap Frame.preview?

theorem sent_foldl (query : String) (frames : List Frame) :
    Sent query frames (frames.foldl (Link.take query) {}) := by
  obtain ⟨hitems, hpongs, hpreviews, -⟩ := Link.foldl_take query (l := {}) rfl frames
  exact ⟨hitems, hpongs, hpreviews⟩

theorem foldl_take_ended {first : List Frame} {last : Frame} {e : FeedError}
    (hlast : last.ending? query = some e) (rest : List Frame) :
    (first ++ last :: rest).foldl (Link.take query) {} =
      (first ++ [last]).foldl (Link.take query) {} := by
  have hreading := (Link.foldl_take query (l := {}) rfl (first ++ [last])).2.2.2
  have hended : (firstEnding? query (first ++ [last])).isNone = false := by
    cases hfirst : first.findSome? (Frame.ending? query) <;> simp [firstEnding?, hfirst, hlast]
  rw [List.append_cons, List.foldl_append]
  exact Link.foldl_take_of_not_reading (hreading.trans hended) rest

theorem foldl_take_idle {f : Frame} (hidle : f.Idle query) (first rest : List Frame) :
    let l := (first ++ f :: rest).foldl (Link.take query) {}
    let without := (first ++ rest).foldl (Link.take query) {}
    l.items = without.items ∧ l.pongs = without.pongs := by
  intro l without
  simp only [l, without, List.foldl_append, List.foldl_cons]
  generalize first.foldl (Link.take query) {} = before
  cases hreading : before.reading with
  | false => rw [Link.take_of_not_reading hreading]; exact ⟨rfl, rfl⟩
  | true =>
    obtain ⟨hending, hbatch, hping⟩ := hidle.yields_nothing
    obtain ⟨hitems, hpongs, -, hstill⟩ := Link.take_eq query hreading f
    rw [hending] at hitems hstill
    obtain ⟨hitems₁, hpongs₁, -⟩ := Link.foldl_take query hreading rest
    obtain ⟨hitems₂, hpongs₂, -⟩ := Link.foldl_take query hstill rest
    rw [hitems₁, hpongs₁, hitems₂, hpongs₂, hitems, hpongs, hbatch, hping]
    simp

structure Transcript (query : String) (frames : List Frame) (l : Link) : Prop where
  sent : Sent query frames l
  disconnected : l.connected = false
  underway : ∀ done, done <+: frames → Sent query done (done.foldl (Link.take query) {})
  ending : ∀ f ∈ frames, ∀ e, f.ending? query = some e ↔
    (f = .close ∨ f = .cut) ∧ e = .closed ∨
      ∃ content v reported, f = .text content ∧ Json.parse? content = some v ∧
        v.get? "error" = some reported ∧ e = .subscriptionRejected query (rejection reported)
  unseen : ∀ first last rest, frames = first ++ last :: rest → last.ending? query ≠ none →
    l = readFrames query (first ++ [last])
  vacant : ∀ content, (Frame.text content).Idle query ↔ ∀ v, Json.parse? content = some v →
    v.get? "error" = none ∧ ∀ result, transaction? v = some result → batchOf? result = none
  idle : ∀ first f rest, frames = first ++ f :: rest → f.Idle query →
    l.items = (readFrames query (first ++ rest)).items ∧
      l.pongs = (readFrames query (first ++ rest)).pongs

/-- The stream of a socket is its transactions in order and at most one error, which is its end. -/
theorem frames_read (query : String) (frames : List Frame) :
    Transcript query frames (readFrames query frames) where
  sent := { sent_foldl query frames with }
  disconnected := rfl
  underway done _ := sent_foldl query done
  ending f _ e := Frame.ending?_eq_some
  unseen first last rest hframes hlast := by
    obtain ⟨e, he⟩ := Option.ne_none_iff_exists'.1 hlast
    rw [hframes, readFrames, foldl_take_ended he, readFrames]
  vacant _ := itemOf?_eq_none
  idle first f rest hframes hidle := by
    rw [hframes]
    exact foldl_take_idle hidle first rest

example : (readFrames "tx" [.ping [1], .binary [0], .cut, .ping [2]]).pongs = [[1]] := rfl

end Countersign.Feed
