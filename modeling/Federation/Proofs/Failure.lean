/-
Federation/Proofs/Failure.lean

What a turn comes to if something goes wrong.

A turn of an outlet can fail on its way to the parcel, if the value has no
payload or if there is no tag of arrival, and it can fail at the sending. Which
failures there are, and whether the federate has to end for them, depends on the
connection only: over a physical one a message may be lost, over a logical one
neither a message nor a notice.

`Outlet.Ends` says in which ways a turn can end, with the calls that it made and
how they ended, and each promise about failures is read off it
(`Connection.FailsSafely`). The main result makes these promises for all outlets
of a federate, whatever the ports hold, whatever the codec makes of the values
and whatever the sending does (`Plan.failures_by_physicality`). It needs that
the connections were checked when the plan was made: no delay points backwards,
none stands on a physical connection, and absence is announced on logical
connections only.
-/
import Mathlib
import Federation.Proofs.Announcement

namespace Federation

variable {μ : Type}

/-! ### Calls and how they end -/

/-- A parcel that was to leave, and whether it did. -/
structure Post.Call where
  parcel : Parcel
  result : Except SendError Unit

/-- Sends as `post` does, and keeps a list of all calls with their results. -/
def Post.observed {σ : Type} (post : Post σ) : Post (σ × List Post.Call) :=
  fun parcel s =>
  ((post parcel s.1).1, (post parcel s.1).2, s.2 ++ [⟨parcel, (post parcel s.1).1⟩])

/-- What is promised of a turn on a connection, with the calls that it made and
its result. The results `done` and `dropped` are those of a turn that sent
something and of one that lost it. -/
structure Connection.FailsSafely {α : Type} (c : Connection) (done dropped : α)
    (calls : List Post.Call) (result : Except Fault α) : Prop where
  once : calls.length ≤ 1
  done : result = .ok done ↔ ∃ call ∈ calls, call.result = .ok ()
  cause : ∀ fault, result = .error fault →
    (∃ e, fault = .payload c.render e) ∨
      (∃ time delay, fault = .time (.overflow time delay)) ∨
      ∃ e, fault = .send c.render false e
  fatal : ∀ fault, result = .error fault → fault.isFatal = true
  unsent : ∀ fault, result = .error fault → ∀ call ∈ calls, call.result ≠ .ok ()
  physical : c.physical = true →
    ∀ call ∈ calls, ∀ e, call.result = .error e → result = .ok dropped
  logical : c.physical = false → ∀ call ∈ calls, ∀ e, call.result = .error e →
    result = .error (.send c.render false e)
  timeless : c.physical = true → ∀ e, result ≠ .error (.time e)

namespace Outlet

variable {σ α : Type} {o : Outlet} {ctx : Context μ} {view : PortView μ}
  {fault : Fault}

/-! ### How a turn ends -/

/-- The ways in which a turn can end. -/
inductive Ends (o : Outlet) (idle done dropped : α) :
    List Post.Call → Except Fault α → Prop
  /-- There is nothing to send. -/
  | nothing : Ends o idle done dropped [] (.ok idle)
  /-- The value has no payload. -/
  | unwritable (e : PayloadError) :
      Ends o idle done dropped [] (.error (.payload o.connection.render e))
  /-- There is no tag of arrival. -/
  | overflow (hlogical : o.connection.physical = false) (time : Instant)
      (delay : Interval) :
      Ends o idle done dropped [] (.error (.time (.overflow time delay)))
  | sent (parcel : Parcel) : Ends o idle done dropped [⟨parcel, .ok ()⟩] (.ok done)
  | lost (hphysical : o.connection.physical = true) (parcel : Parcel)
      (e : SendError) :
      Ends o idle done dropped [⟨parcel, .error e⟩] (.ok dropped)
  | failed (hlogical : o.connection.physical = false) (parcel : Parcel)
      (e : SendError) :
      Ends o idle done dropped [⟨parcel, .error e⟩]
        (.error (.send o.connection.render false e))

/-- Whichever way a turn ends, the promises are kept. -/
theorem Ends.failsSafely {idle done dropped : α} {calls : List Post.Call}
    {result : Except Fault α} (h : o.Ends idle done dropped calls result)
    (hidle : idle ≠ done) (hdropped : dropped ≠ done) :
    o.connection.FailsSafely done dropped calls result where
  once := by cases h <;> simp
  done := by cases h <;> simp [hidle, hdropped]
  cause := by cases h <;> simp
  fatal := by cases h <;> simp [Fault.isFatal]
  unsent := by cases h <;> simp
  physical hphysical := by cases h <;> simp_all
  logical hlogical := by cases h <;> simp_all
  timeless hphysical := by cases h <;> simp_all

/-- A tag of arrival is missing only if time runs out, as no delay points
backwards. -/
theorem arrivalTag_error (hdelay : o.connection.validateDelay = .ok ())
    (h : o.arrivalTag view = .error fault) :
    ∃ time delay, fault = .time (.overflow time delay) := by
  have hforwards := Connection.validateDelay_ok_iff.mp hdelay
  rw [arrivalTag] at h
  rcases hdelayed : view.tag.delayed o.connection.delay with e | arrival
  · rw [hdelayed] at h
    cases h
    have hfails := Tag.delayed_error_iff.mp hdelayed
    generalize o.connection.delay = delay at hforwards hfails
    cases hfails with
    | negative hneg => exact absurd (hforwards _ rfl).1 (by omega)
    | lastMicrostep => exact ⟨_, _, rfl⟩
    | beyondLast => exact ⟨_, _, rfl⟩
  · rw [hdelayed] at h
    cases h

/-- A frame is missing only if the connection is logical and there is no tag of
arrival. -/
theorem frame_error {m : Coordination} {payload : ByteArray}
    (h : o.frame m view payload = .error fault) :
    o.connection.physical = false ∧ o.arrivalTag view = .error fault := by
  unfold frame at h
  rcases hphysical : o.connection.physical with - | -
  · refine ⟨rfl, ?_⟩
    rw [Connection.route_of_logical hphysical] at h
    rcases harrival : o.arrivalTag view with e | arrival
    · rw [harrival] at h
      cases m <;> cases h <;> rfl
    · rw [harrival] at h
      cases m <;> cases h
  · rw [Connection.route_of_physical hphysical] at h
    cases h

/-- A message is missing, though there is a value, if the value has no payload
or the payload no frame. -/
theorem message?_error (h : o.message? ctx view = .error fault) :
    (∃ e, fault = .payload o.connection.render e) ∨
      o.connection.physical = false ∧ o.arrivalTag view = .error fault := by
  rcases hvalue : o.value? view with - | value
  · rw [message?, hvalue] at h
    cases h
  · rcases hencode : ctx.codec.encode o.connection.serializer
      o.connection.valueType value with e | payload
    · rw [message?, hvalue] at h
      simp only [encode, hencode] at h
      cases h
      exact .inl ⟨e, rfl⟩
    · have hpayload : o.encode ctx.codec value = .ok payload := by
        rw [encode, hencode]
        rfl
      rw [o.message?_of_encode hvalue hpayload] at h
      rcases hframe : o.frame ctx.coordination view payload with e | frame
      · rw [hframe] at h
        cases h
        exact .inr (frame_error hframe)
      · rw [hframe] at h
        cases h

/-- A notice is missing, though the port is absent, if there is no tag of
arrival. -/
theorem notice?_error (h : o.notice? ctx view = .error fault) :
    o.arrivalTag view = .error fault := by
  rw [notice?] at h
  split at h
  · cases h
  · rcases harrival : o.arrivalTag view with e | arrival
    · rw [harrival] at h
      cases h
      rfl
    · rw [harrival] at h
      cases h

section Turns

variable (ctx view) (post : Post σ) (s : σ)
  (hdelay : o.connection.validateDelay = .ok ())

/-- To keep a list of the calls changes nothing. -/
theorem send_observed :
    let turn := o.send post.observed ctx view (s, [])
    o.send post ctx view s = (turn.1, turn.2.1) := by
  rw [send, send]
  rcases o.message? ctx view with e | - | parcel <;> rfl

theorem announce_observed :
    let turn := o.announce post.observed ctx view (s, [])
    o.announce post ctx view s = (turn.1, turn.2.1) := by
  rw [announce, announce]
  rcases o.notice? ctx view with e | - | parcel
  · rfl
  · rfl
  · simp only [Post.observed]
    rcases post parcel s with ⟨e | -, s'⟩ <;> rfl

include hdelay

theorem send_ends :
    let turn := o.send post.observed ctx view (s, [])
    o.Ends .notPresent .sent .dropped turn.2.2 turn.1 := by
  rw [send]
  rcases hmessage : o.message? ctx view with fault | - | parcel
  · -- what fails on the way to the parcel fails before the call
    rcases message?_error hmessage with ⟨e, rfl⟩ | ⟨hlogical, harrival⟩
    · exact .unwritable e
    · obtain ⟨time, delay, rfl⟩ := arrivalTag_error hdelay harrival
      exact .overflow hlogical time delay
  · exact .nothing
  · -- how the one call ends decides, and if it fails, the kind of the connection
    simp only [Post.observed, List.nil_append]
    rcases (post parcel s).1 with e | -
    · rcases hphysical : o.connection.physical with - | -
      · have hsettle :
            o.settle (.error e) = .error (.send o.connection.render false e) := by
          simp [settle, hphysical]
        rw [hsettle]
        exact .failed hphysical parcel e
      · have hsettle : o.settle (.error e) = .ok .dropped := by
          simp [settle, hphysical]
        rw [hsettle]
        exact .lost hphysical parcel e
    · exact .sent parcel

theorem announce_ends (hlogical : o.connection.physical = false) :
    let turn := o.announce post.observed ctx view (s, [])
    o.Ends false true false turn.2.2 turn.1 := by
  rw [announce]
  rcases hnotice : o.notice? ctx view with fault | - | parcel
  · obtain ⟨time, delay, rfl⟩ := arrivalTag_error hdelay (notice?_error hnotice)
    exact .overflow hlogical time delay
  · exact .nothing
  · simp only [Post.observed, List.nil_append]
    rcases (post parcel s).1 with e | -
    · rw [hlogical]
      exact .failed hlogical parcel e
    · exact .sent parcel

end Turns

end Outlet

/-! ### All turns of a federate -/

namespace Plan

/-- **Failures by the kind of the connection.** The turn of each outlet makes one
call at most, and reports that it has sent something exactly if the call went
through. A call that fails is a fault on a logical connection, for messages and
for notices alike; on a physical one the message counts as dropped. A turn can
fail without a call too, as a value has no payload or time runs out, but not for
time on a physical connection. Notices leave on logical connections only. -/
theorem failures_by_physicality (f : FederateId) (cs : List Connection)
    (m : Coordination) (stp : Port → Interval) {plan : Plan}
    (hbuild : build f cs m stp = .ok plan) (ctx : Context μ) (view : PortView μ)
    {σ : Type} (post : Post σ) (s : σ) :
    (∀ o ∈ plan.outlets,
      let turn := o.send post.observed ctx view (s, [])
      o.send post ctx view s = (turn.1, turn.2.1) ∧
      o.connection.FailsSafely .sent .dropped turn.2.2 turn.1) ∧
    (∀ o ∈ plan.announced, o.connection.physical = false ∧
      let turn := o.announce post.observed ctx view (s, [])
      o.announce post ctx view s = (turn.1, turn.2.1) ∧
      o.connection.FailsSafely true false turn.2.2 turn.1) := by
  have hdelay : ∀ o ∈ plan.outlets, o.connection.validateDelay = .ok () := by
    intro o ho
    have hmem : o.connection ∈ cs.filter (Connection.leaves f) := by
      rw [← outlets_map_connection hbuild]
      exact List.mem_map_of_mem ho
    exact (Connection.validate_ok_iff.mp
      (validate_of_build hbuild (List.mem_filter.mp hmem).1)).2.1
  refine ⟨fun o ho => ?_, fun o ho => ?_⟩
  · have hends := Outlet.send_ends ctx view post s (hdelay o ho)
    exact ⟨Outlet.send_observed ctx view post s,
      hends.failsSafely (by decide) (by decide)⟩
  · obtain ⟨hmem, hlogical⟩ := List.mem_filter.mp ho
    have hphysical : o.connection.physical = false :=
      Connection.isLogical_iff.mp hlogical
    have hends := Outlet.announce_ends ctx view post s (hdelay o hmem) hphysical
    exact ⟨hphysical, Outlet.announce_observed ctx view post s,
      hends.failsSafely Bool.false_ne_true Bool.false_ne_true⟩

/-- A setting in which every port has a value. -/
def allSet : PortView Empty :=
  ⟨⟨.epoch, 3⟩, fun _ => true, fun _ => some (.text "a")⟩

/-- Where nothing gets through to the last federate of the triangle, the first
one must end for the message on its logical connection, and drops the one on its
physical connection. -/
theorem failures_by_physicality_on_triangle :
    ∃ plan near raw, build ⟨0⟩ triangle .decentralized (fun _ => .zero) = .ok plan ∧
      plan.outlets[0]? = some near ∧ plan.outlets[2]? = some raw ∧
      let box := ({} : Outbox).failFor (.federate ⟨2⟩)
      let ctx : Context Empty := ⟨⟨0⟩, .decentralized, .zero, {}⟩
      (near.send Outbox.post ctx allSet box).1
        = .error
          (.send "0:first.out -> 2:last.near" false (.closed (.federate ⟨2⟩))) ∧
      (raw.send Outbox.post ctx allSet box).1 = .ok .dropped := by
  obtain ⟨hsend, -⟩ :=
    failures_by_physicality ⟨0⟩ triangle .decentralized (fun _ => .zero) rfl
    ⟨⟨0⟩, .decentralized, .zero, {}⟩ allSet Outbox.post
    (({} : Outbox).failFor (.federate ⟨2⟩))
  refine ⟨_, _, _, rfl, rfl, rfl, ?_, ?_⟩
  · obtain ⟨hplain, hsafe⟩ := hsend _ (List.mem_of_getElem? (i := 0) rfl)
    rw [hplain]
    exact hsafe.logical rfl _ (List.mem_singleton.mpr rfl) _ rfl
  · obtain ⟨hplain, hsafe⟩ := hsend _ (List.mem_of_getElem? (i := 2) rfl)
    rw [hplain]
    exact hsafe.physical rfl _ (List.mem_singleton.mpr rfl) _ rfl

end Plan

end Federation
