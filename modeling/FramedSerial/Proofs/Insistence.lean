import FramedSerial.Link

/-!
# What a transport takes from a writer who insists

A writer who insists goes on with what was not taken, and tries again after an
error of the kind `interrupted`. It takes every error for the news that nothing
was taken. A write that is refused says so truly; a write that is taken and
then cannot be flushed does not, since the failure of the flush comes back in
place of the count. If that failure has the kind that is retried, the bytes go
out a second time, and the writer is told in the end that all went well.

So nothing is lost and nothing is out of order, and bytes are repeated exactly
where a transport gave such a reply (`Link.accepted_of_writeAll`).
-/

namespace FramedSerial

/-- The transport takes bytes and fails at the flush, in the way that a writer
who insists takes for a refusal. -/
def Reply.Unreported : Reply → Prop
  | .accept limit (some cause) => limit ≠ some 0 ∧ cause.kind = .interrupted
  | _ => False

instance (r : Reply) : Decidable r.Unreported := by
  cases r with
  | accept limit flushFailure =>
      cases flushFailure with
      | none => exact instDecidableFalse
      | some cause => exact instDecidableAnd
  | refuse cause => exact instDecidableFalse

namespace Transport

/-- From one transport to the other these replies were used up and these bytes
taken, and no failure of a flush is left over. -/
structure Went (t t' : Transport) (used : List Reply) (taken : Bytes) : Prop where
  script : t.script = used ++ t'.script
  accepted : t'.accepted = t.accepted ++ taken
  rested : t'.flushFailure = none

theorem Went.trans {t t' t'' : Transport} {used more : List Reply} {taken after : Bytes}
    (h : t.Went t' used taken) (h' : t'.Went t'' more after) :
    t.Went t'' (used ++ more) (taken ++ after) := by
  constructor
  · rw [h.script, h'.script, List.append_assoc]
  · rw [h'.accepted, h.accepted, List.append_assoc]
  · exact h'.rested

/-! ## One write and its flush -/

/-- What sending a message once comes to. Only a flush that succeeds lets the
count through. -/
inductive Transmitted (t : Transport) (data : Bytes) :
    Except LinkError Nat → Transport → Prop where
  | reported {t' : Transport} {used : List Reply} {count : Nat} (le : count ≤ data.length)
      (clean : ∀ r ∈ used, ¬ r.Unreported) (went : t.Went t' used (data.take count)) :
      Transmitted t data (.ok count) t'
  | refused {t' : Transport} {cause : IoError} (went : t.Went t' [.refuse cause] []) :
      Transmitted t data (.error (.transport cause)) t'
  | unflushed {t' : Transport} {limit : Option Nat} {cause : IoError}
      (went : t.Went t' [.accept limit (some cause)] (data.take (limit.getD data.length))) :
      Transmitted t data (.error (.transport cause)) t'

variable {t t' : Transport} {data : Bytes}

theorem transmitted_of_transmit (hrested : t.flushFailure = none) (hdata : data ≠ [])
    {result : Except LinkError Nat} (h : (t.transmit data).value = (result, t')) :
    Transmitted t data result t' := by
  have hempty : ¬ data.isEmpty = true := by simpa using hdata
  unfold transmit at h
  rw [if_neg hempty, staged_eq] at h
  cases hscript : t.script with
  | nil =>
      simp only [write, flush, hscript, hrested, Logged.value_bind, Logged.value_pure] at h
      cases h
      exact .reported (Nat.min_le_right _ _) (List.forall_mem_nil _) ⟨hscript, rfl, rfl⟩
  | cons reply script =>
      cases reply with
      | refuse cause =>
          simp only [write, hscript, Logged.value_pure] at h
          cases h
          exact .refused ⟨hscript, (List.append_nil _).symm, hrested⟩
      | accept limit flushFailure =>
          cases flushFailure with
          | none =>
              simp only [write, flush, hscript, hrested, Option.or, Logged.value_bind,
                Logged.value_pure] at h
              cases h
              have hclean : ∀ r ∈ [Reply.accept limit none], ¬ r.Unreported := by
                simp [Reply.Unreported]
              exact .reported (Nat.min_le_right _ _) hclean ⟨hscript, rfl, rfl⟩
          | some cause =>
              simp only [write, flush, hscript, Option.or, Logged.value_pure] at h
              cases h
              refine .unflushed ⟨hscript, ?_, rfl⟩
              show _ ++ data.take _ = _
              rw [← List.take_eq_take_min]

/-! ## All of a message -/

/-- A transport that has taken a message from a writer who insists: all of it,
in order, and more than it exactly if something was unreported. -/
structure Insisted (t t' : Transport) (data : Bytes) (used : List Reply) (sent : Bytes) :
    Prop where
  went : t.Went t' used sent
  whole : data.Sublist sent
  once : sent.length = data.length ↔ ∀ r ∈ used, ¬ r.Unreported

theorem Insisted.nothing (hrested : t.flushFailure = none) : t.Insisted t [] [] [] :=
  ⟨⟨rfl, (List.append_nil _).symm, hrested⟩, List.Sublist.refl [], by simp⟩

/-- The count was reported, and the writer goes on behind it. -/
theorem Insisted.after_report {t'' : Transport} {used more : List Reply} {count : Nat}
    {after : Bytes} (le : count ≤ data.length) (clean : ∀ r ∈ used, ¬ r.Unreported)
    (went : t.Went t' used (data.take count)) (h : t'.Insisted t'' (data.drop count) more after) :
    t.Insisted t'' data (used ++ more) (data.take count ++ after) := by
  refine ⟨went.trans h.went, ?_, ?_⟩
  · have hwhole := (List.Sublist.refl (data.take count)).append h.whole
    rwa [List.take_append_drop] at hwhole
  · have honce := h.once
    rw [List.length_drop] at honce
    rw [List.forall_mem_append, List.length_append, List.length_take_of_le le, ← honce]
    constructor
    · intro hlength
      exact ⟨clean, by omega⟩
    · rintro ⟨-, hlength⟩
      omega

/-- Whatever was taken went unreported, and the writer starts again. -/
theorem Insisted.after_failure {t'' : Transport} {r : Reply} {more : List Reply}
    {taken after : Bytes} (went : t.Went t' [r] taken) (htaken : ¬ r.Unreported ↔ taken = [])
    (h : t'.Insisted t'' data more after) :
    t.Insisted t'' data (r :: more) (taken ++ after) := by
  refine ⟨went.trans h.went, h.whole.trans (List.sublist_append_right taken after), ?_⟩
  have hlonger := h.whole.length_le
  rw [List.forall_mem_cons, List.length_append, htaken, ← h.once, ← List.length_eq_zero_iff]
  constructor
  · intro hlength
    exact ⟨by omega, by omega⟩
  · rintro ⟨hnone, hlength⟩
    omega

theorem not_unreported_iff {limit : Option Nat} {cause : IoError} (hdata : data ≠ [])
    (hkind : cause.kind = .interrupted) :
    ¬ (Reply.accept limit (some cause)).Unreported ↔
      data.take (limit.getD data.length) = [] := by
  cases limit with
  | none => simp [Reply.Unreported, hkind, hdata]
  | some n => simp [Reply.Unreported, hkind, hdata, List.take_eq_nil_iff]

/-- A writer who insists and succeeds has sent the message. The induction is
on the loop itself, which ends because failures are used up. -/
theorem insisted_of_writeAll (t : Transport) (data : Bytes) :
    t.flushFailure = none → (t.writeAll data).value.1 = .ok () →
      ∃ used sent, t.Insisted (t.writeAll data).value.2 data used sent := by
  fun_induction writeAll t data with
  | case1 t =>
      intro hrested _
      exact ⟨[], [], .nothing hrested⟩
  | case2 t data hdata t' hsend =>
      intro _ hok
      cases hok
  | case3 t data hdata count t' hsend hcount more ih =>
      intro hrested hok
      cases transmitted_of_transmit hrested hdata hsend with
      | reported le clean went =>
          obtain ⟨used, sent, hsent⟩ := ih went.rested hok
          exact ⟨_, _, .after_report le clean went hsent⟩
  | case4 t data hdata cause t' hsend hkind more ih =>
      intro hrested hok
      cases transmitted_of_transmit hrested hdata hsend with
      | refused went =>
          obtain ⟨used, sent, hsent⟩ := ih went.rested hok
          exact ⟨_, _, .after_failure went (by simp [Reply.Unreported]) hsent⟩
      | unflushed went =>
          obtain ⟨used, sent, hsent⟩ := ih went.rested hok
          exact ⟨_, _, .after_failure went (not_unreported_iff hdata hkind) hsent⟩
  | case5 t data hdata cause t' hsend hkind =>
      intro _ hok
      cases hok

end Transport

namespace Link

/-- Whatever the transport does, a message that a standard writer claims to
have sent was taken as a whole and in order. It was taken once unless the
transport took bytes and then failed at the flush in the way that is retried. -/
theorem accepted_of_writeAll {l : Link} {data : Bytes}
    (hrested : l.transport.flushFailure = none) (hok : (l.writeAll data).value.1 = .ok ()) :
    let l' := (l.writeAll data).value.2
    ∃ used sent,
      l.transport.script = used ++ l'.transport.script ∧
      l'.transport.accepted = l.transport.accepted ++ sent ∧
      data.Sublist sent ∧ (sent = data ↔ ∀ r ∈ used, ¬ r.Unreported) ∧
      l'.transport.flushFailure = none ∧ l' = { l with transport := l'.transport } := by
  obtain ⟨used, sent, h⟩ := Transport.insisted_of_writeAll l.transport data hrested hok
  refine ⟨used, sent, h.went.script, h.went.accepted, h.whole, ?_, h.went.rested, rfl⟩
  rw [← h.once]
  constructor
  · intro hsame
    rw [hsame]
  · intro hlength
    exact (h.whole.eq_of_length hlength.symm).symm

/-- A short write, a refusal, and a failing flush behind a write of nothing:
all are made good, and the message goes out once. -/
theorem accepted_of_harmless_failures :
    let message : Bytes := [0x61, 0x62, 0x63, 0x64, 0x65, 0x66]
    let replies : List Reply := [.accept (some 2) none, .refuse (.bare .interrupted),
      .accept (some 0) (some (.bare .interrupted)), .accept (some 9) none]
    let l : Link := ⟨⟨.empty 16, .ofDefaultCapacity⟩, .ofScript replies, .blocking, none⟩
    l.transport.flushFailure = none ∧ (l.writeAll message).value.1 = .ok () ∧
      (l.writeAll message).value.2.transport.script = [] ∧
      (∀ r ∈ replies, ¬ r.Unreported) ∧
      (l.writeAll message).value.2.transport.accepted = message := by
  intro message replies l
  have hrested : l.transport.flushFailure = none := rfl
  have hrun : (l.writeAll message).value.1 = .ok () ∧
      (l.writeAll message).value.2.transport.script = [] := by
    simp [l, message, replies, writeAll, Transport.writeAll, Transport.transmit, Transport.write,
      Transport.flush, Transport.ofScript, Logged.tell, LinkError.toIo, IoError.kind]
  have hclean : ∀ r ∈ replies, ¬ r.Unreported := by decide
  obtain ⟨used, sent, hused, hsent, -, honce, -, -⟩ := accepted_of_writeAll hrested hrun.1
  rw [hrun.2, List.append_nil] at hused
  refine ⟨hrested, hrun.1, hrun.2, hclean, ?_⟩
  rw [hsent, honce.2 (hused ▸ hclean)]
  rfl

/-- A transport that takes four bytes of six and is interrupted at the flush
gets the four bytes twice, and the writer is told that all went well. -/
theorem accepted_twice :
    let message : Bytes := [0x61, 0x62, 0x63, 0x64, 0x65, 0x66]
    let replies : List Reply :=
      [.accept (some 4) (some (.bare .interrupted)), .accept none none]
    let l : Link := ⟨⟨.empty 16, .ofDefaultCapacity⟩, .ofScript replies, .blocking, none⟩
    l.transport.flushFailure = none ∧ (l.writeAll message).value.1 = .ok () ∧
      (l.writeAll message).value.2.transport.accepted =
        [0x61, 0x62, 0x63, 0x64, 0x61, 0x62, 0x63, 0x64, 0x65, 0x66] ∧
      (l.writeAll message).value.2.transport.accepted ≠ l.transport.accepted ++ message := by
  intro message replies l
  have hrun : (l.writeAll message).value.1 = .ok () ∧
      (l.writeAll message).value.2.transport.accepted =
        [0x61, 0x62, 0x63, 0x64, 0x61, 0x62, 0x63, 0x64, 0x65, 0x66] := by
    simp [l, message, replies, writeAll, Transport.writeAll, Transport.transmit, Transport.write,
      Transport.flush, Transport.ofScript, Logged.tell, LinkError.toIo, IoError.kind]
  refine ⟨rfl, hrun.1, hrun.2, ?_⟩
  rw [hrun.2]
  decide

end Link

end FramedSerial
