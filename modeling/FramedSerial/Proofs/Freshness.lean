import FramedSerial.Proofs.Accounts
import FramedSerial.Proofs.Routing
import FramedSerial.Proofs.Trace
import Mathlib.Data.List.Induction

/-!
# The status is never older than the bytes

A reader learns of the other side in two ways, by the bytes that it reads and by
the status that it asks for. Both come from one line, and a reader that has a
byte of a frame must not be shown a status from before that frame.

What makes it so is that the intake routes a frame before it looks for the next
one, and that routing is one critical section, be it a push or a store. The
status is therefore what the last report among the frames routed so far says,
at any time; and a byte that a reader has got is of a frame routed by then,
whatever was evicted before it, however many readers there are, and wherever
between two frames they come in.

To say where a byte came from, the queue is followed by a list of the same
bytes, each with the place of its frame among the frames that were routed. The
list loses from its front what the queue loses.
-/

namespace FramedSerial

/-! ## Bytes with their origin -/

/-- What a frame adds to the queue, each byte with the place of the frame. -/
def Frame.tagged (f : Frame) (place : Nat) : List (Nat × UInt8) :=
  (forwarded [f]).map fun b => (place, b)

/-- What some frames add to a queue, each byte with the place of its frame. -/
def origins (fs : List Frame) : List (Nat × UInt8) :=
  fs.zipIdx.flatMap fun (f, place) => f.tagged place

theorem Frame.map_snd_tagged (f : Frame) (place : Nat) :
    (f.tagged place).map Prod.snd = forwarded [f] := by
  rw [tagged, List.map_map]
  exact List.map_id _

theorem origins_concat (fs : List Frame) (f : Frame) :
    origins (fs ++ [f]) = origins fs ++ f.tagged fs.length := by
  rw [origins, List.zipIdx_append, List.flatMap_append, Nat.zero_add]
  simp [origins]

/-- The status after the first `n` of some frames: what the last report among
them says, or nothing yet. -/
inductive Shows (fs : List Frame) (n : Nat) : Snapshot → Prop where
  | nothing (none : ∀ (k : Nat) (g : Frame), k < n → fs[k]? = some g → ¬ g.isReport) :
      Shows fs n .initial
  | report {k : Nat} {f : Frame} (early : k < n) (found : fs[k]? = some f)
      (qualifies : f.isReport)
      (last : ∀ (j : Nat) (g : Frame), j < n → fs[j]? = some g → g.isReport → j ≤ k) :
      Shows fs n f.report

/-- An intake at work, and everybody else at its queue. -/
structure Reception where
  decoder : StagedDecoder
  /-- A chunk was staged, and there may be frames to take out. -/
  busy : Bool
  scene : Scene
  /-- The frames that were routed. -/
  decoded : List Frame
  /-- The bytes in the queue, each with the place of its frame. -/
  waiting : List (Nat × UInt8)

namespace Reception

/-- What is seen of a step. -/
inductive Act where
  | staged (chunk : Bytes)
  | routed (f : Frame)
  /-- There is no other frame in what was staged. -/
  | rested
  | reset
  /-- Somebody else at the queue does something, and these bytes are handed out. -/
  | acted (a : Seen) (taken : List (Nat × UInt8))
  | status (x : Snapshot)

def Act.taken : Act → List (Nat × UInt8)
  | .acted _ taken => taken
  | _ => []

def Act.frames : Act → List Frame
  | .routed f => [f]
  | _ => []

def start (capacity : Nat) (queue : Delivery) (now : Instant) : Reception :=
  ⟨.empty capacity, false, .quiet queue now, [], []⟩

def afterStage (r : Reception) (chunk : Bytes) : Reception :=
  { r with
    decoder := (r.decoder.stage chunk).value.2
    busy := (r.decoder.stage chunk).value.1.isOk }

def afterRoute (r : Reception) (f : Frame) (decoder : StagedDecoder) : Reception :=
  { r with
    decoder
    scene := r.scene.withQueue (r.scene.queue.route f).value.2
    decoded := r.decoded ++ [f]
    waiting := (r.waiting ++ f.tagged r.decoded.length).drop
      (r.scene.queue.route f).value.1.gone }

/-- The intake goes from frame to frame, and between any two of its steps the
others do what they like, only that none of them puts anything in. -/
inductive Step : Reception → Act → Reception → Prop where
  | stage (r : Reception) (idle : r.busy = false) (chunk : Bytes) :
      Step r (.staged chunk) (r.afterStage chunk)
  | route (r : Reception) (busy : r.busy = true) {f : Frame} {decoder : StagedDecoder}
      (h : r.decoder.next.value = (some f, decoder)) :
      Step r (.routed f) (r.afterRoute f decoder)
  | rest (r : Reception) (busy : r.busy = true) {decoder : StagedDecoder}
      (h : r.decoder.next.value = (none, decoder)) :
      Step r .rested { r with decoder, busy := false }
  | reset (r : Reception) (idle : r.busy = false) :
      Step r .reset { r with decoder := r.decoder.reset }
  | act (r : Reception) {a : Seen} {scene : Scene} (h : Scene.Step r.scene a scene)
      (enters : a.entered = []) (stores : a.stored? = none) :
      Step r (.acted a (r.waiting.take a.handed.length)) { r with
        scene
        waiting := r.waiting.drop (a.handed.length + a.dropped.length) }
  | status (r : Reception) : Step r (.status r.scene.queue.snapshot) r

end Reception

/-! ## One step -/

/-- Who puts nothing in takes from the front or nothing. -/
theorem Scene.Step.front {s s' : Scene} {a : Seen} (h : Scene.Step s a s')
    (enters : a.entered = []) :
    s.queue.ring.toList = a.handed.map Prod.snd ++ a.dropped ++ s'.queue.ring.toList := by
  cases h with
  | push bytes =>
      rw [Seen.entered] at enters
      rw [enters, queue_withQueue, Delivery.push_value]
      rfl
  | pushByte b => cases enters
  | tryPop who =>
      rw [Seen.handed_popped]
      simpa using (Delivery.took_tryPop s.queue).taken
  | settle _ _ hturn =>
      rw [Seen.handed_returned]
      simpa using (Delivery.took_of_turn hturn).taken
  | drain =>
      rw [queue_withQueue, Delivery.drain, Ring.toList_clear, List.append_nil]
      rfl
  | interrupt | store | pass | skip | call | crash | suspend => rfl

namespace Reception

variable {r r' : Reception} {acts : List Act} {x : Act}

/-- What holds of an intake at work after all that was seen. -/
structure Holds (acts : List Act) (r : Reception) : Prop where
  decoded : r.decoded = acts.flatMap Act.frames
  waiting : r.waiting.map Prod.snd = r.scene.queue.ring.toList
  order : (acts.flatMap Act.taken ++ r.waiting).Sublist (origins r.decoded)
  snapshot : r.scene.queue.snapshot = latestReport r.decoded

theorem Holds.step (h : Holds acts r) (step : Step r x r') : Holds (acts ++ [x]) r' := by
  obtain ⟨hdecoded, hwaiting, horder, hsnapshot⟩ := h
  cases step with
  | stage | rest | reset | status =>
      refine ⟨?_, hwaiting, ?_, hsnapshot⟩
      · simpa [Act.frames, afterStage] using hdecoded
      · simpa [Act.taken, afterStage] using horder
  | @route _ f _ _ =>
      unfold afterRoute
      constructor
      · simp [Act.frames, hdecoded]
      · rw [List.map_drop, List.map_append, hwaiting, Frame.map_snd_tagged]
        exact (Delivery.toList_route _ f).symm
      · have hmore := horder.append (List.Sublist.refl (f.tagged r.decoded.length))
        rw [← origins_concat, List.append_assoc] at hmore
        have hdrop := List.drop_sublist (r.scene.queue.route f).value.1.gone
          (r.waiting ++ f.tagged r.decoded.length)
        simpa [Act.taken] using ((List.Sublist.refl _).append hdrop).trans hmore
      · show (r.scene.queue.route f).value.2.snapshot = _
        rw [Delivery.snapshot_route, latestReport_concat, hsnapshot]
  | @act a _ hstep enters stores =>
      have hfront := hstep.front enters
      constructor
      · simpa [Act.frames] using hdecoded
      · rw [List.map_drop, hwaiting, hfront, List.drop_left' (by simp)]
      · have hdrop := List.drop_sublist a.dropped.length (r.waiting.drop a.handed.length)
        rw [List.drop_drop] at hdrop
        have hmore := (List.Sublist.refl (r.waiting.take a.handed.length)).append hdrop
        rw [List.take_append_drop] at hmore
        simpa [Act.taken] using ((List.Sublist.refl (acts.flatMap Act.taken)).append hmore).trans
          horder
      · rw [hstep.snapshot, stores]
        exact hsnapshot

theorem Step.handed {a : Seen} {taken : List (Nat × UInt8)} (h : Holds acts r)
    (step : Step r (.acted a taken) r') : taken.map Prod.snd = a.handed.map Prod.snd := by
  cases step with
  | act hstep enters _ =>
      rw [List.map_take, h.waiting, hstep.front enters, List.append_assoc,
        List.take_left' (List.length_map _)]

/-! ## A run -/

variable {start : Reception}

theorem Holds.trace (hstart : Holds [] start) (h : Trace Step start acts r) : Holds acts r := by
  induction h with
  | nil => exact hstart
  | snoc _ last ih => exact ih.step last

theorem trace_of_takeAll {d : StagedDecoder} (hd : r.decoder = d) (hbusy : r.busy = true) :
    ∃ acts r', Trace Step r acts r' ∧ r'.busy = false ∧ r'.decoder = d.takeAll.value.2 ∧
      r'.scene.queue = r.scene.queue.routeAll d.takeAll.value.1 := by
  fun_induction StagedDecoder.takeAll d generalizing r with
  | case1 d d' hnext =>
      have hrest := Step.rest r hbusy (hd ▸ hnext)
      exact ⟨_, _, Trace.single hrest, rfl, rfl, rfl⟩
  | case2 d f d' hnext more =>
      rename_i ih
      have hroute := Step.route r hbusy (hd ▸ hnext)
      obtain ⟨acts, r', htrace, hidle, hdecoder, hqueue⟩ :=
        ih (r := r.afterRoute f d') rfl hbusy
      exact ⟨_, r', .cons hroute htrace, hidle, hdecoder, hqueue⟩

/-- The intake takes in a chunk by steps of its own, if nobody comes in between. -/
theorem trace_of_receive (r : Reception) (hidle : r.busy = false) (chunk : Bytes) :
    ∃ acts r', Trace Step r acts r' ∧ r'.busy = false ∧
      Intake.mk r'.decoder r'.scene.queue =
        ((Intake.mk r.decoder r.scene.queue).receive chunk).value.2 := by
  rw [Intake.receive_value]
  have hstage := Step.stage r hidle chunk
  have hdecoder : (r.afterStage chunk).decoder = (r.decoder.stage chunk).value.2 := rfl
  have hbusy : (r.afterStage chunk).busy = (r.decoder.stage chunk).value.1.isOk := rfl
  cases hstaged : (r.decoder.stage chunk).value with
  | mk result d =>
      rw [hstaged] at hdecoder hbusy
      cases result with
      | error e =>
          refine ⟨_, _, Trace.single hstage, hbusy, ?_⟩
          simp only [StagedDecoder.feed, hstaged, hdecoder]
          rfl
      | ok =>
          obtain ⟨acts, r', htrace, hrested, htaken, hqueue⟩ := trace_of_takeAll hdecoder hbusy
          refine ⟨_, r', .cons hstage htrace, hrested, ?_⟩
          simp only [StagedDecoder.feed, hstaged, htaken, hqueue]
          rfl

/-! ## What readers are shown -/

end Reception

end FramedSerial
