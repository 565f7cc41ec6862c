import FramedSerial.Link.Intake
import FramedSerial.Proofs.Drain
import FramedSerial.Proofs.Ledger

/-!
# What a queue knows of the frames

The intake looks for a frame, routes it, and only then looks for the next one.
The decoder does not notice: it makes the frames it would make if they were all
taken out first, and the queue is what it would be if they were all routed
afterwards. `Intake.receive_value` says so, and it is all that is needed of the
loop.

What routing does to a queue is the other half. The frames decoded so far
determine the bytes that went into it, `forwarded`, and the snapshot in it,
`latestReport`; how the bytes got out again is the business of the ledger.
`Delivery.Follows` holds the three together, frame by frame.
-/

namespace FramedSerial

/-- The wires of the frames that are not state reports. -/
def forwarded (fs : List Frame) : Bytes :=
  (fs.filter fun f => f.type ≠ FrameType.stateUpdate).flatMap Frame.wire

/-- A state report that is long enough to be one. -/
def Frame.isReport (f : Frame) : Bool :=
  f.type = FrameType.stateUpdate ∧ Snapshot.minPayload ≤ f.payload.length

/-- The first two bytes of a payload that has them. -/
def Frame.report (f : Frame) : Snapshot := ⟨f.payload.getD 0 0, f.payload.getD 1 0⟩

/-- What the last state report says. -/
def latestReport (fs : List Frame) : Snapshot :=
  match (fs.filter Frame.isReport).getLast? with
  | none => .initial
  | some f => f.report

theorem forwarded_append (fs gs : List Frame) :
    forwarded (fs ++ gs) = forwarded fs ++ forwarded gs := by
  rw [forwarded, List.filter_append, List.flatMap_append]
  rfl

theorem forwarded_of_stateUpdate {f : Frame} (h : f.type = FrameType.stateUpdate) :
    forwarded [f] = [] := by
  simp [forwarded, h]

theorem forwarded_of_ne {f : Frame} (h : f.type ≠ FrameType.stateUpdate) :
    forwarded [f] = f.wire := by
  simp [forwarded, h]

theorem latestReport_concat (fs : List Frame) (f : Frame) :
    latestReport (fs ++ [f]) = if f.isReport then f.report else latestReport fs := by
  by_cases h : f.isReport
  · rw [if_pos h, latestReport, List.filter_append, List.filter_cons_of_pos h,
      List.filter_nil, List.getLast?_concat]
  · rw [if_neg h, latestReport, List.filter_append, List.filter_cons_of_neg h,
      List.filter_nil, List.append_nil]
    rfl

theorem Snapshot.ofPayload?_eq (f : Frame) :
    Snapshot.ofPayload? f.payload =
      if Snapshot.minPayload ≤ f.payload.length then some f.report else none := by
  rw [Frame.report]
  match f.payload with
  | [] => rfl
  | [_] => rfl
  | rootState :: version :: rest =>
      rw [if_pos (by simp [minPayload])]
      rfl

/-! ## Routing -/

/-- How many bytes had to go for a frame. -/
def Routed.gone : Routed → Nat
  | .forwarded _ evicted => evicted
  | _ => 0

namespace Delivery

/-- Route frames one after another. -/
def routeAll (q : Delivery) (fs : List Frame) : Delivery :=
  fs.foldl (fun q f => (q.route f).value.2) q

theorem routeAll_cons (q : Delivery) (f : Frame) (fs : List Frame) :
    q.routeAll (f :: fs) = (q.route f).value.2.routeAll fs := rfl

/-- The wires of the frames that routing reports as forwarded. -/
def offered (q : Delivery) : List Frame → Bytes
  | [] => []
  | f :: fs =>
    match (q.route f).value with
    | (.forwarded _ _, q) => f.wire ++ q.offered fs
    | (_, q) => q.offered fs

theorem route_of_report {q : Delivery} {f : Frame} (h : f.isReport) :
    (q.route f).value.2 = q.store f.report := by
  obtain ⟨htype, hlong⟩ := of_decide_eq_true h
  rw [route, if_pos htype, Snapshot.ofPayload?_eq, if_pos hlong]
  rfl

theorem route_of_tooShort {q : Delivery} {f : Frame} (htype : f.type = FrameType.stateUpdate)
    (h : ¬ f.isReport) : (q.route f).value.2 = q := by
  have hshort : ¬ Snapshot.minPayload ≤ f.payload.length :=
    fun hlong => h (decide_eq_true ⟨htype, hlong⟩)
  rw [route, if_pos htype, Snapshot.ofPayload?_eq, if_neg hshort]
  rfl

theorem route_of_ne {q : Delivery} {f : Frame} (h : f.type ≠ FrameType.stateUpdate) :
    (q.route f).value.2 = (q.push f.wire).value.2 := by
  rw [route, if_neg h]
  rfl

theorem offered_eq (fs : List Frame) : ∀ q : Delivery, q.offered fs = forwarded fs := by
  induction fs with
  | nil => intro q; rfl
  | cons f fs ih =>
      intro q
      rw [← List.singleton_append, forwarded_append, List.singleton_append, offered]
      by_cases htype : f.type = FrameType.stateUpdate
      · rw [forwarded_of_stateUpdate htype, route, if_pos htype]
        cases Snapshot.ofPayload? f.payload with
        | none => exact ih _
        | some s => exact ih _
      · rw [forwarded_of_ne htype, route, if_neg htype, ← ih (q.push f.wire).value.2]
        rfl

/-- Routing a frame pushes what it adds, and says how much had to go. -/
theorem toList_route (q : Delivery) (f : Frame) :
    (q.route f).value.2.ring.toList =
      (q.ring.toList ++ forwarded [f]).drop (q.route f).value.1.gone := by
  by_cases htype : f.type = FrameType.stateUpdate
  · rw [forwarded_of_stateUpdate htype, List.append_nil, route, if_pos htype]
    cases Snapshot.ofPayload? f.payload with
    | none => rfl
    | some s => rfl
  · rw [forwarded_of_ne htype, route_of_ne htype, push_value, route, if_neg htype]
    simp only [Logged.value_bind, Logged.value_pure, Routed.gone, push_value]
    exact Ring.toList_pushAll _ _

theorem snapshot_route (q : Delivery) (f : Frame) :
    (q.route f).value.2.snapshot = if f.isReport then f.report else q.snapshot := by
  by_cases hreport : f.isReport
  · rw [route_of_report hreport, if_pos hreport]
    rfl
  · rw [if_neg hreport]
    by_cases htype : f.type = FrameType.stateUpdate
    · rw [route_of_tooShort htype hreport]
    · rw [route_of_ne htype, push_value]

theorem latch_route (q : Delivery) (f : Frame) :
    (q.route f).value.2.latch = q.latch := by
  by_cases htype : f.type = FrameType.stateUpdate
  · rw [route, if_pos htype]
    cases Snapshot.ofPayload? f.payload <;> rfl
  · rw [route_of_ne htype, push_value]

/-- A frame enters what it adds, and the queue says how much had to go for it. -/
theorem balances_route {l : Ledger} {pushed delivered drained : Bytes} {q : Delivery}
    (h : l.Balances pushed delivered drained q) (f : Frame) :
    ((l.enter (forwarded [f])).settle .evicted (q.route f).value.1.gone).Balances
      (pushed ++ forwarded [f]) delivered drained (q.route f).value.2 := by
  by_cases htype : f.type = FrameType.stateUpdate
  · rw [forwarded_of_stateUpdate htype, Ledger.enter_nil, List.append_nil, route, if_pos htype]
    cases Snapshot.ofPayload? f.payload with
    | none =>
        show (l.settle .evicted 0).Balances _ _ _ q
        rw [Ledger.settle_zero]
        exact h
    | some s =>
        show (l.settle .evicted 0).Balances _ _ _ (q.store s)
        rw [Ledger.settle_zero]
        exact h.store s
  · rw [forwarded_of_ne htype, route, if_neg htype]
    exact h.push f.wire

/-- The queue after these frames were routed into it, these bytes read from it
and these dropped by drains. -/
structure Follows (q : Delivery) (decoded : List Frame) (delivered drained : Bytes)
    (l : Ledger) : Prop where
  balances : l.Balances (forwarded decoded) delivered drained q
  snapshot : q.snapshot = latestReport decoded

variable {q : Delivery} {decoded : List Frame} {delivered drained : Bytes} {l : Ledger}

theorem Follows.route (h : q.Follows decoded delivered drained l) (f : Frame) :
    ∃ l', (q.route f).value.2.Follows (decoded ++ [f]) delivered drained l' := by
  refine ⟨(l.enter (forwarded [f])).settle .evicted (q.route f).value.1.gone, ?_, ?_⟩
  · rw [forwarded_append]
    exact balances_route h.balances f
  · rw [snapshot_route, latestReport_concat, h.snapshot]

theorem Follows.routeAll (fs : List Frame) :
    ∀ {q : Delivery} {decoded : List Frame} {l : Ledger},
      q.Follows decoded delivered drained l →
      ∃ l', (q.routeAll fs).Follows (decoded ++ fs) delivered drained l' := by
  induction fs with
  | nil =>
      intro q decoded l h
      rw [List.append_nil]
      exact ⟨l, h⟩
  | cons f fs ih =>
      intro q decoded l h
      obtain ⟨l₁, h₁⟩ := h.route f
      obtain ⟨l₂, h₂⟩ := ih h₁
      rw [List.append_assoc] at h₂
      exact ⟨l₂, h₂⟩

end Delivery

/-! ## Receiving -/

/-- Stage a chunk and take out every frame that is complete then. -/
def StagedDecoder.feed (d : StagedDecoder) (chunk : Bytes) : List Frame × StagedDecoder :=
  match (d.stage chunk).value with
  | (.ok (), d) => d.takeAll.value
  | (.error _, d) => ([], d)

/-- The number of bytes of a chunk that are accepted. -/
def StagedDecoder.accepted (d : StagedDecoder) (chunk : Bytes) : Nat :=
  if chunk = [] ∨ d.capacity < d.pending.length + chunk.length then 0 else chunk.length

theorem StagedDecoder.feed_value (d : StagedDecoder) (chunk : Bytes) :
    d.feed chunk =
      if chunk = [] then ([], d)
      else if d.capacity < d.pending.length + chunk.length then
        ([], { d with
          pending := []
          stats := { d.stats with overflowResets := d.stats.overflowResets + 1 } })
      else
        ((drain d.capacity (d.pending ++ chunk)).frames,
          d.afterDrain (drain d.capacity (d.pending ++ chunk))) := by
  unfold feed
  rw [stage_value]
  by_cases hempty : chunk = []
  · rw [if_pos hempty, if_pos hempty]
  · rw [if_neg hempty, if_neg hempty]
    by_cases hover : d.capacity < d.pending.length + chunk.length
    · rw [if_pos hover, if_pos hover]
    · rw [if_neg hover, if_neg hover]
      exact takeAll_value _

theorem StagedDecoder.capacity_feed (d : StagedDecoder) (chunk : Bytes) :
    (d.feed chunk).2.capacity = d.capacity := by
  rw [feed_value]
  split
  · rfl
  · split <;> rfl

theorem Intake.routeStaged_value (i : Intake) :
    i.routeStaged.value = ⟨i.decoder.takeAll.value.2,
      i.queue.routeAll i.decoder.takeAll.value.1⟩ := by
  -- both loops ask the decoder for the next frame, so they unfold together
  fun_induction Intake.routeStaged i with
  | case1 i decoder h =>
      have htake : i.decoder.takeAll.value = ([], decoder) := by
        rw [StagedDecoder.takeAll]
        split
        · next hnone => rw [h] at hnone; cases hnone; rfl
        · next hsome => rw [h] at hsome; cases hsome
      rw [htake]
      rfl
  | case2 i f decoder h routed rest ih =>
      have htake : i.decoder.takeAll.value =
          (f :: decoder.takeAll.value.1, decoder.takeAll.value.2) := by
        rw [StagedDecoder.takeAll]
        split
        · next hnone => rw [h] at hnone; cases hnone
        · next hsome => rw [h] at hsome; cases hsome; rfl
      rw [htake, Delivery.routeAll_cons]
      exact ih

theorem Intake.receive_value (i : Intake) (chunk : Bytes) :
    (i.receive chunk).value = (i.decoder.accepted chunk,
      ⟨(i.decoder.feed chunk).2, i.queue.routeAll (i.decoder.feed chunk).1⟩) := by
  unfold receive StagedDecoder.feed StagedDecoder.accepted
  simp only [Logged.value_bind]
  rw [StagedDecoder.stage_value]
  by_cases hempty : chunk = []
  · simp only [if_pos hempty, if_pos (Or.inl hempty)]
    rfl
  · by_cases hover : i.decoder.capacity < i.decoder.pending.length + chunk.length
    · simp only [if_neg hempty, if_pos hover, if_pos (Or.inr hover)]
      rfl
    · have hfits : ¬ (chunk = [] ∨
          i.decoder.capacity < i.decoder.pending.length + chunk.length) :=
        fun h => h.elim hempty hover
      simp only [if_neg hempty, if_neg hover, if_neg hfits, Logged.value_bind,
        Logged.value_pure, routeStaged_value]

end FramedSerial
