/-
Federation/Proofs/Delivery.lean

From port to port.

A value that is set at the source of a connection arrives at its destination. On
the way it is

* a payload, which is read again (`PayloadCodec.decode_encode`);
* a frame, which is encoded and decoded (`Frame.decode_encode`);
* a message of the action that both plans know the connection by
  (`agree_of_build`), which the receiver schedules (`dispatch_messageFrame`);
* and in the end the value of a port, with a note of its arrival (`receive_ok`).

Put together they hold for every federation that has plans, and for every one of
its connections, be it logical or physical.
-/
import Mathlib
import Federation.Input
import Federation.Proofs.Agreement
import Federation.Proofs.Exchange
import Federation.Proofs.Payload
import Federation.Proofs.RoundTrip

namespace Federation

variable {μ : Type}

/-! ### The ports of the receiver -/

namespace PortStore

variable {s : PortStore μ} {port port' : Port} {f : PortState μ → PortState μ}

theorem state_update_of_ne (h : port' ≠ port) :
    (s.update port f).state port' = s.state port' := by
  have hne : compare port port' ≠ .eq :=
    fun heq => h (Std.LawfulEqOrd.eq_of_compare heq).symm
  rw [state, update, Std.ExtTreeMap.getD_insert, if_neg hne, state]

/-- Whether of all that the ports hold just one port has changed: it got a value
and a note. -/
structure SetsOnly (before : PortStore μ) (port : Port) (value : PortValue μ)
    (note : ArrivalNote) (after : PortStore μ) : Prop where
  tag : after.tag = before.tag
  state : after.state port = ⟨some value, false, some note⟩
  others : ∀ port' ≠ port, after.state port' = before.state port'

theorem setsOnly_addNote_set (s : PortStore μ) (port : Port)
    (value : PortValue μ) (note : ArrivalNote) :
    s.SetsOnly port value note ((s.addNote port note).set port value) where
  tag := rfl
  state := by simp [set, addNote]
  others port' h := by rw [set, state_update_of_ne h, addNote, state_update_of_ne h]

end PortStore

/-- A message with a payload that can be read sets the port, and no other. -/
theorem Inlet.receive_ok (i : Inlet) (ctx : Context μ) (m : ReceivedMessage)
    {value : PortValue μ} (h : ctx.codec.decode i.connection.serializer
      i.connection.valueType m.payload = .ok value) (s : PortStore μ) :
    ∃ s', i.receive ctx m s = (.ok (), s') ∧
      s.SetsOnly i.destination value (i.noteOf ctx m) s' := by
  have hdecode : i.decode ctx.codec m.payload = .ok value := by
    rw [decode, h]
    rfl
  refine ⟨_, ?_, s.setsOnly_addNote_set i.destination value (i.noteOf ctx m)⟩
  rw [receive]
  simp only [hdecode]

/-! ### The frame on its way -/

namespace Outlet

/-- The frame of a payload that keeps to the limit is encoded, and decoded again. -/
theorem messageFrame_decode_encode (o : Outlet) (m : Coordination) (tag : Tag)
    {payload : ByteArray} (h : payload.size ≤ Frame.maxPayload) :
    ∃ bytes, (o.messageFrame m tag payload).encode = .ok bytes ∧
      Frame.decode bytes = .ok (o.messageFrame m tag payload) := by
  have hlimits : (o.messageFrame m tag payload).WithinLimits := by
    unfold messageFrame
    split <;> exact h
  have hrep : (o.messageFrame m tag payload).Representable := by
    unfold messageFrame
    split <;> trivial
  have hencode := Frame.encode_ok_iff.mpr ⟨hlimits, rfl⟩
  exact ⟨_, hencode, Frame.decode_encode hencode hrep⟩

end Outlet

/-! ### From port to port -/

namespace Plan

open Connection

/-- **From port to port.** Let `c` be the connection at place `k`, from the
federate `s` to the federate `d`. If its source has a value with a payload, and
the tag of arrival exists should the connection be logical, the outlet sends one
frame, which is encoded and decoded. The receiver schedules one message more, at
the inlet of `c`; and that message sets the destination of `c`, and no other port,
to the value, with the notes of its arrival. -/
theorem value_delivered (s d : FederateId) (cs : List Connection)
    (m : Coordination) (stp stp' : Port → Interval) (k : Nat)
    (ctx ctx' : Context μ) (view : PortView μ) (value : PortValue μ)
    (arrival : Tag) {sender receiver : Plan} {c : Connection} {payload : ByteArray}
    (hs : build s cs m stp = .ok sender) (hd : build d cs m stp' = .ok receiver)
    (hk : cs[k]? = some c) (hleaves : c.leaves s = true)
    (hleads : c.leadsTo d = true) (hm : ctx.coordination = m)
    (hm' : ctx'.coordination = m) (hview : view.Consistent c.source.port)
    (hvalue : view.value? c.source.port = some value)
    (hpayload : ctx.codec.encode c.serializer c.valueType value = .ok payload)
    (hsize : payload.size ≤ Frame.maxPayload)
    (harrival : c.isLogical = true → view.tag.delayed c.delay = .ok arrival)
    (hros : c.serializer = .ros2 → ctx.codec.ReadBy ctx'.codec) :
    ∃ o i parcel bytes value',
      sender.outletOf cs k = some o ∧ o.connection = c ∧
      receiver.inletOf cs k = some i ∧ i.connection = c ∧
      receiver.inlet? o.port = some i ∧
      (∀ {σ : Type} (post : Post σ) (st : σ),
        o.send post ctx view st
          = (o.settle (post parcel st).1, (post parcel st).2)) ∧
      parcel.frame.encode = .ok bytes ∧ Frame.decode bytes = .ok parcel.frame ∧
      value.ArrivesAs c.valueType value' ∧
      ∀ source now inbox, ∃ outcome board message,
        receiver.dispatch source now parcel.frame inbox
          = (.ok outcome, ⟨board, inbox.scheduled ++ [message]⟩) ∧
        message.port = o.port ∧
        ∀ store, ∃ store', i.receive ctx' message store = (.ok (), store') ∧
          store.SetsOnly c.destination.port value'
            ⟨now, if m = .decentralized ∧ c.isLogical then some arrival else none⟩
            store' := by
  have houtlet := outletOf_entry hs hk hleaves
  have hinlet := inletOf_entry hd hk hleads
  have haction := (inlet?_portAt hd hk hleads).trans hinlet
  obtain ⟨o, hport, rfl⟩ :
      ∃ o : Outlet, o.port = portAt cs k c ∧ o.connection = c :=
    ⟨⟨c, portAt cs k c⟩, rfl, rfl⟩
  rw [← hport] at houtlet hinlet haction
  -- the way of the value: frame, bytes, frame, and value again
  obtain ⟨bytes, hencode, hdecode⟩ := o.messageFrame_decode_encode m arrival hsize
  obtain ⟨value', hread, harrives⟩ := PayloadCodec.decode_encode hros hpayload
  have hreceiver : o.receiver = receiver.federate := by
    rw [federate_of_build hd]
    exact leadsTo_iff.mp hleads
  refine ⟨o, ⟨o, maxStp m stp' o.connection.destination.port⟩,
    ⟨o.destination m, o.messageFrame m arrival payload⟩, bytes, value', houtlet,
    rfl, hinlet, rfl,
    haction, ?_, hencode, hdecode, harrives, ?_⟩
  · intro σ post st
    have hsend :=
      Outlet.send_eq ((Outlet.value?_of_consistent hview).trans hvalue) hpayload
      harrival post st
    rwa [hm] at hsend
  · intro source now inbox
    obtain ⟨outcome, board, hdispatch⟩ :=
      dispatch_messageFrame m arrival payload haction rfl hreceiver inbox source now
    refine ⟨outcome, board, _, hdispatch, rfl, fun store => ?_⟩
    obtain ⟨store', hreceive, hsets⟩ := Inlet.receive_ok
      ⟨o, maxStp m stp' o.connection.destination.port⟩ ctx'
      ⟨o.port, payload, now, if o.connection.isLogical then some arrival else none⟩
      hread store
    refine ⟨store', hreceive, ?_⟩
    -- the tag of arrival is noted if both sides have a use for it
    have hnote : (if m = .decentralized ∧ o.connection.isLogical = true then
        some arrival else none)
        = if ctx'.isDecentralized && o.connection.isLogical then
            (if o.connection.isLogical then some arrival else none) else none := by
      simp only [Context.isDecentralized, hm']
      cases m <;> cases o.connection.isLogical <;> rfl
    rw [hnote]
    exact hsets

/-- The ports of the first federate of the triangle, where one has just been set. -/
def triangleStore : PortStore Empty :=
  (PortStore.fresh ⟨.epoch, 7⟩).set { name := "first.out" } (.text "hello")

theorem value_delivered_on_triangle :
    ∃ sender receiver o i parcel, ∃ value : PortValue Empty,
      build ⟨0⟩ triangle .decentralized (fun _ => .zero) = .ok sender ∧
      build ⟨2⟩ triangle .decentralized (fun _ => .zero) = .ok receiver ∧
      sender.outletOf triangle 0 = some o ∧ receiver.inletOf triangle 0 = some i ∧
      (o.send Outbox.post ⟨⟨0⟩, .decentralized, .zero, {}⟩ triangleStore.view
        {}).2.parcels = [parcel] ∧
      (PortValue.text "hello").ArrivesAs .text value ∧
      ∀ source now, ∃ message,
        (receiver.dispatch source now parcel.frame {}).2.scheduled = [message] ∧
        ∃ ports, i.receive ⟨⟨2⟩, .decentralized, .zero, {}⟩ message
          (.fresh .never) = (.ok (), ports) ∧
          (PortStore.fresh .never).SetsOnly { name := "last.near" } value
            ⟨now, some ⟨.epoch, 8⟩⟩ ports := by
  obtain ⟨o, i, parcel, bytes, value, houtlet, -, hinlet, -, -, hsend, -, -,
      harrives, hdeliver⟩ :=
    value_delivered ⟨0⟩ ⟨2⟩ triangle .decentralized (fun _ => .zero)
      (fun _ => .zero) 0 ⟨⟨0⟩, .decentralized, .zero, {}⟩
      ⟨⟨2⟩, .decentralized, .zero, {}⟩ triangleStore.view
      (.text "hello") ⟨.epoch, 8⟩ rfl rfl rfl rfl rfl rfl rfl
      (triangleStore.view_consistent _)
      (congrArg PortState.value (PortStore.state_update_self ..)) rfl
      (by decide) (fun _ => rfl) nofun
  refine ⟨_, _, o, i, parcel, value, rfl, rfl, houtlet, hinlet, ?_, harrives,
    fun source now => ?_⟩
  · rw [hsend]
    rfl
  · obtain ⟨outcome, board, message, hdispatch, -, hreceive⟩ :=
      hdeliver source now {}
    obtain ⟨ports, hports, hsets⟩ := hreceive (.fresh .never)
    refine ⟨message, ?_, ports, hports, hsets⟩
    rw [hdispatch]
    rfl

end Plan

end Federation
