/-
Federation/Proofs/Fitting.lean

Frames that do not fit their connection.

A physical connection carries no tags, and a logical one nothing without a tag.
A frame for an action of the federate is to be held to this: it fits if it has a
tag exactly if the connection is logical (`Frame.Fits`).

The main result is `refused_unless_fitting`. Messages are held to it: one that
does not fit is refused in so many words (`Frame.misfit`), and leaves the inbox
as it was. Notices of absence are not. They have a tag, so for a physical action
they do not fit, but they are taken in all the same, and the board records an
absence for an input that has no tags (`notice_recorded_for_physical`).

The second half says how far this goes. Over any row of frames, what the board
has on record of a physical action changes by such notices only, and by them it
can become absent, never present. The step lemma is `record_dispatchIncoming`: a
frame leaves the record as it was, or it is a notice for the action.
-/
import Mathlib
import Federation.Proofs.Independence

namespace Federation

/-! ### What fits -/

namespace Frame

/-- The tag that a data frame carries. -/
def tag? : Frame → Option Tag
  | peerTaggedMessage m => some m.tag
  | taggedMessage m => some m.tag
  | portAbsent notice => some notice.tag
  | _ => none

/-- Whether a frame is a notice of absence. -/
def isNotice : Frame → Bool
  | portAbsent _ => true
  | _ => false

/-- Whether a frame carries a tag exactly if the connection is logical. -/
def Fits (frame : Frame) (c : Connection) : Prop := frame.tag?.isSome = c.isLogical

instance (frame : Frame) (c : Connection) : Decidable (frame.Fits c) :=
  inferInstanceAs (Decidable (_ = _))

/-- What is wrong with a message that does not fit. -/
def misfit (frame : Frame) (c : Connection) : String :=
  (match frame.tag? with
    | some _ => "tagged message on physical connection "
    | none => "untimed message on logical connection ") ++ c.render

theorem fits_physical_iff {frame : Frame} {c : Connection} (h : c.physical = true) :
    frame.Fits c ↔ frame.tag? = none := by
  simp [Fits, Connection.isLogical, h]

theorem fits_logical_iff {frame : Frame} {c : Connection} (h : c.physical = false) :
    frame.Fits c ↔ frame.tag? ≠ none := by
  simp [Fits, Connection.isLogical, h, Option.isSome_iff_ne_none]

/-- Marks are tagged, and those that are no messages are notices. -/
theorem Marks.tag?_eq {port : PortId} {receiver : FederateId} {tag : Tag}
    {message : Bool} {frame : Frame} (h : frame.Marks port receiver tag message) :
    frame.tag? = some tag ∧ frame.isNotice = !message := by
  cases h <;> exact ⟨rfl, rfl⟩

/-- Every frame for an action is for a federate. -/
theorem exists_addressee {port : PortId} (frame : Frame)
    (h : frame.action? = some port) :
    ∃ federate, frame.addressee? = some federate := by
  cases frame with
  | untimedMessage m => exact ⟨_, rfl⟩
  | peerTaggedMessage m => exact ⟨_, rfl⟩
  | taggedMessage m => exact ⟨_, rfl⟩
  | portAbsent notice => exact ⟨_, rfl⟩
  | _ => cases h

end Frame

namespace Plan

variable {plan : Plan} {frame : Frame} {port : PortId} {i : Inlet} {detail : String}
variable {source : Destination} {now : Instant} {inbox : Inbox}

/-! ### One frame -/

/-- Whether a frame is addressed to an action of the federate, that of the given
inlet. -/
structure Addresses (plan : Plan) (frame : Frame) (port : PortId) (i : Inlet) :
    Prop where
  federate : frame.addressee? = some plan.federate
  action : frame.action? = some port
  inlet : plan.inlet? port = some i

/-- Of the frames that are addressed well, the messages that do not fit are
refused. -/
theorem Addresses.refuses_iff (h : plan.Addresses frame port i) :
    plan.Refuses frame detail ↔
      ¬ frame.Fits i.connection ∧ frame.isNotice = false ∧
        detail = frame.misfit i.connection := by
  obtain ⟨hfederate, haction, hinlet⟩ := h
  constructor
  · intro hrefuses
    cases hrefuses with
    -- the address is right, which rules out the first three reasons
    | stray hstray => cases hstray.symm.trans haction
    | misaddressed haddressee hother =>
      cases haddressee.symm.trans hfederate
      exact absurd rfl hother
    | unknown _ haction' hunknown =>
      cases haction'.symm.trans haction
      cases hunknown.symm.trans hinlet
    -- what is left is the kind of the connection
    | tagged hmarks hinlet' hphysical =>
      cases hmarks.action?_eq.symm.trans haction
      cases hinlet'.symm.trans hinlet
      obtain ⟨htag, hnotice⟩ := hmarks.tag?_eq
      refine ⟨?_, hnotice, ?_⟩
      · rw [Frame.fits_physical_iff hphysical, htag]
        exact nofun
      · rw [Frame.misfit, htag]
    | untimed _ hinlet' hlogical =>
      cases haction
      cases hinlet'.symm.trans hinlet
      refine ⟨?_, rfl, rfl⟩
      rw [Frame.fits_logical_iff hlogical]
      exact not_not.mpr rfl
  · -- conversely a message that does not fit is on the other kind of connection
    rintro ⟨hmisfit, hnotice, rfl⟩
    cases frame with
    | untimedMessage m =>
      cases haction
      have hlogical : i.connection.physical = false :=
        Bool.eq_false_iff.mpr fun h => hmisfit ((Frame.fits_physical_iff h).mpr rfl)
      exact .untimed (Option.some.inj hfederate) hinlet hlogical
    | peerTaggedMessage m =>
      cases haction
      have hphysical : i.connection.physical = true :=
        Bool.eq_true_of_not_eq_false fun h =>
          hmisfit ((Frame.fits_logical_iff h).mpr nofun)
      have hmarks :
          (Frame.peerTaggedMessage m).Marks m.port plan.federate m.tag true := by
        rw [← Option.some.inj hfederate]
        exact .peerTaggedMessage m.payload
      exact .tagged hmarks hinlet hphysical
    | taggedMessage m =>
      cases haction
      have hphysical : i.connection.physical = true :=
        Bool.eq_true_of_not_eq_false fun h =>
          hmisfit ((Frame.fits_logical_iff h).mpr nofun)
      have hmarks :
          (Frame.taggedMessage m).Marks m.port plan.federate m.tag true := by
        rw [← Option.some.inj hfederate]
        exact .taggedMessage m.payload
      exact .tagged hmarks hinlet hphysical
    | portAbsent notice => cases hnotice
    | _ => cases haction

/-- What fits is not refused, and neither is a notice. -/
theorem Addresses.accepts_iff (h : plan.Addresses frame port i) :
    (∀ detail, ¬ plan.Refuses frame detail) ↔
      frame.Fits i.connection ∨ frame.isNotice = true := by
  simp only [h.refuses_iff, not_and]
  constructor
  · intro haccepts
    by_contra hmisfit
    obtain ⟨hmisfit, hnotice⟩ := not_or.mp hmisfit
    exact haccepts _ hmisfit (Bool.eq_false_iff.mpr hnotice) rfl
  · rintro (hfits | hnotice) detail hmisfit hmessage
    · exact absurd hfits hmisfit
    · cases hnotice.symm.trans hmessage

theorem Addresses.isOk_iff (h : plan.Addresses frame port i) :
    (plan.dispatch source now frame inbox).1.isOk ↔
      frame.Fits i.connection ∨ frame.isNotice = true := by
  rw [← h.accepts_iff]
  by_cases haccepts : ∀ detail, ¬ plan.Refuses frame detail
  · rw [dispatch_of_accepts source now inbox haccepts]
    exact iff_of_true rfl haccepts
  · have hrefuses := haccepts
    push Not at hrefuses
    obtain ⟨detail, hrefuses⟩ := hrefuses
    rw [dispatch_of_refuses source now inbox hrefuses]
    exact iff_of_false nofun haccepts

/-- What does not fit and is no notice is refused. -/
theorem Addresses.dispatch_misfit (h : plan.Addresses frame port i)
    (hmisfit : ¬ frame.Fits i.connection) (hnotice : frame.isNotice = false) :
    plan.dispatch source now frame inbox
      = (.error (.protocol source.render (frame.misfit i.connection)), inbox) :=
  dispatch_of_refuses source now inbox (h.refuses_iff.mpr ⟨hmisfit, hnotice, rfl⟩)

/-! ### The record of a physical action -/

section Physical

variable (hinlet : plan.inlet? port = some i)
  (hphysical : i.connection.physical = true)
include hinlet

/-- A notice for the action is taken as a mark, whatever its connection. -/
theorem board_of_notice (t : Tag) :
    (plan.dispatch source now (.portAbsent ⟨port, plan.federate, t⟩) inbox).2.board
      = inbox.board.mark port t false := by
  have haddresses : plan.Addresses (.portAbsent ⟨port, plan.federate, t⟩) port i :=
    ⟨rfl, rfl, hinlet⟩
  rw [dispatch_of_accepts source now inbox (haddresses.accepts_iff.mpr (.inr rfl))]
  rfl

include hphysical

/-- What is taken in and is no notice for the action leaves its record alone. -/
theorem getElem?_hear_of_accepts {b : Board}
    (haccepts : ∀ detail, ¬ plan.Refuses frame detail)
    (hnotice : ∀ t, frame ≠ .portAbsent ⟨port, plan.federate, t⟩) :
    (b.hear frame).ports[port]? = b.ports[port]? := by
  by_cases haction : frame.action? = some port
  · obtain ⟨federate, haddressee⟩ := frame.exists_addressee haction
    obtain ⟨rfl, -⟩ := inlet_of_accepts haccepts haddressee haction
    have htaken := (Addresses.mk haddressee haction hinlet).accepts_iff.mp haccepts
    rw [Frame.fits_physical_iff hphysical] at htaken
    -- of the frames for the action only an untimed message is left, which the
    -- board does not see
    cases frame with
    | untimedMessage m => rfl
    | peerTaggedMessage m => simp [Frame.tag?, Frame.isNotice] at htaken
    | taggedMessage m => simp [Frame.tag?, Frame.isNotice] at htaken
    | portAbsent notice =>
      cases haction
      refine absurd ?_ (hnotice notice.tag)
      rw [← Option.some.inj haddressee]
    | _ => cases haction
  · exact Board.getElem?_hear_of_ne haction

/-- What one frame does to the record of a physical action: if it is a notice
for it, it marks an absence, and else nothing. -/
theorem record_dispatchIncoming (arrival : Incoming) (inbox : Inbox) :
    (∃ t, arrival.frame = .portAbsent ⟨port, plan.federate, t⟩ ∧
      (plan.dispatchIncoming arrival inbox).2.board
        = inbox.board.mark port t false) ∨
    ((∀ t, arrival.frame ≠ .portAbsent ⟨port, plan.federate, t⟩) ∧
      (plan.dispatchIncoming arrival inbox).2.board.ports[port]?
        = inbox.board.ports[port]?) := by
  unfold dispatchIncoming
  by_cases hnotice : ∃ t, arrival.frame = .portAbsent ⟨port, plan.federate, t⟩
  · obtain ⟨t, hframe⟩ := hnotice
    refine .inl ⟨t, hframe, ?_⟩
    rw [hframe, board_of_notice hinlet]
  · refine .inr ⟨not_exists.mp hnotice, ?_⟩
    by_cases hrefuses : ∃ detail, plan.Refuses arrival.frame detail
    · obtain ⟨detail, hrefuses⟩ := hrefuses
      rw [dispatch_of_refuses _ _ _ hrefuses]
    · rw [dispatch_of_accepts _ _ _ (not_exists.mp hrefuses)]
      exact getElem?_hear_of_accepts hinlet hphysical (not_exists.mp hrefuses)
        (not_exists.mp hnotice)

/-- Without a notice for it, a row of frames leaves the record of a physical
action as it was. -/
theorem record_dispatchAll {arrivals : List Incoming} {inbox : Inbox}
    (h : ∀ arrival ∈ arrivals,
      ∀ t, arrival.frame ≠ .portAbsent ⟨port, plan.federate, t⟩) :
    (inTurn plan.dispatchIncoming arrivals inbox).2.board.ports[port]?
      = inbox.board.ports[port]? := by
  induction arrivals generalizing inbox with
  | nil => rfl
  | cons arrival arrivals ih =>
    rw [List.forall_mem_cons] at h
    rw [inTurn_cons, ih h.2]
    rcases record_dispatchIncoming hinlet hphysical arrival inbox with
      ⟨t, hframe, -⟩ | ⟨-, hrecord⟩
    · exact absurd hframe (h.1 t)
    · exact hrecord

/-- A row of frames makes no tag of a physical action present. -/
theorem present_dispatchAll_iff {arrivals : List Incoming} {inbox : Inbox}
    {g : Tag} :
    (inTurn plan.dispatchIncoming arrivals inbox).2.board.status port g = .present ↔
      inbox.board.status port g = .present := by
  induction arrivals generalizing inbox with
  | nil => exact Iff.rfl
  | cons arrival arrivals ih =>
    rw [inTurn_cons, ih]
    rcases record_dispatchIncoming hinlet hphysical arrival inbox with
      ⟨t, -, hboard⟩ | ⟨-, hrecord⟩
    · rw [hboard, Board.present_mark_iff]
      simp
    · rw [Board.status, hrecord, Board.status]

/-- After a row of frames a tag of a physical action is known if it was, or if a
notice came for it or for a later one. -/
theorem unknown_dispatchAll_iff {arrivals : List Incoming} {inbox : Inbox}
    {g : Tag} :
    (inTurn plan.dispatchIncoming arrivals inbox).2.board.status port g = .unknown ↔
      inbox.board.status port g = .unknown ∧ ∀ arrival ∈ arrivals, ∀ t,
        arrival.frame = .portAbsent ⟨port, plan.federate, t⟩ → ¬ g ≤ t := by
  induction arrivals generalizing inbox with
  | nil => simp [inTurn]
  | cons arrival arrivals ih =>
    rw [inTurn_cons, ih, List.forall_mem_cons, ← and_assoc]
    refine and_congr_left fun _ => ?_
    rcases record_dispatchIncoming hinlet hphysical arrival inbox with
      ⟨t, hframe, hboard⟩ | ⟨hnotice, hrecord⟩
    · rw [hboard, Board.unknown_mark_iff, hframe]
      refine and_congr_right fun _ => ⟨?_, fun h => h t rfl⟩
      rintro hbeyond _ ⟨⟩
      exact hbeyond
    · rw [Board.status, hrecord, ← Board.status,
        and_iff_left fun t hframe => absurd hframe (hnotice t)]

end Physical

/-- **Refused unless it fits.** A data frame for an action of the federate is
taken in if it carries a tag exactly if the connection of the action is logical,
and else it is refused by name and leaves the inbox as it was; notices of absence
are taken in on either kind. So a row of frames makes no tag of a physical action
present, makes one absent only if a notice came for it or a later one, and else
leaves what is on record of the action as it was. -/
theorem refused_unless_fitting (plan : Plan) (port : PortId) (i : Inlet)
    (hinlet : plan.inlet? port = some i) :
    (∀ frame source now inbox, frame.addressee? = some plan.federate →
      frame.action? = some port →
      ((plan.dispatch source now frame inbox).1.isOk ↔
        frame.Fits i.connection ∨ frame.isNotice = true) ∧
      (¬ frame.Fits i.connection → frame.isNotice = false →
        plan.dispatch source now frame inbox
          = (.error (.protocol source.render (frame.misfit i.connection)), inbox))) ∧
    (i.connection.physical = true → ∀ arrivals inbox,
      let board := (inTurn plan.dispatchIncoming arrivals inbox).2.board
      let noticed := fun g => ∃ arrival ∈ arrivals, ∃ t,
        arrival.frame = .portAbsent ⟨port, plan.federate, t⟩ ∧ g ≤ t
      (∀ g, board.status port g = .present ↔ inbox.board.status port g = .present) ∧
      (∀ g, board.status port g = .unknown ↔
        inbox.board.status port g = .unknown ∧ ¬ noticed g) ∧
      ((∀ g, ¬ noticed g) → board.ports[port]? = inbox.board.ports[port]?)) := by
  refine ⟨fun frame source now inbox hfederate haction => ?_,
    fun hphysical arrivals inbox => ?_⟩
  · have haddresses : plan.Addresses frame port i := ⟨hfederate, haction, hinlet⟩
    exact ⟨haddresses.isOk_iff, haddresses.dispatch_misfit⟩
  · refine ⟨fun g => present_dispatchAll_iff hinlet hphysical, fun g => ?_,
      fun hnone => ?_⟩
    · rw [unknown_dispatchAll_iff hinlet hphysical]
      push Not
      exact Iff.rfl
    · apply record_dispatchAll hinlet hphysical
      intro arrival harrival t hframe
      exact hnone t ⟨arrival, harrival, t, hframe, Tag.le_refl t⟩

/-- The last federate of the triangle refuses a tagged message for its physical
action, and takes in a notice for it. In the traffic there is no such notice, so
nothing is on record of this action. -/
theorem refused_unless_fitting_on_triangle :
    ∃ receiver i,
      build ⟨2⟩ triangle .decentralized (fun _ => .zero) = .ok receiver ∧
      receiver.inlet? ⟨2⟩ = some i ∧ i.connection.physical = true ∧
      (receiver.dispatch (.federate ⟨0⟩) .epoch
          (.peerTaggedMessage ⟨⟨2⟩, ⟨2⟩, ⟨.epoch, 6⟩, .empty⟩) {}).1
        = .error (.protocol "federate 0"
          "tagged message on physical connection 0:first.raw ~> 2:last.raw") ∧
      (receiver.dispatch (.federate ⟨0⟩) .epoch
        (.portAbsent ⟨⟨2⟩, ⟨2⟩, ⟨.epoch, 6⟩⟩) {}).1.isOk ∧
      (inTurn receiver.dispatchIncoming triangleTraffic {}).2.board.status ⟨2⟩
        ⟨.epoch, 6⟩ = .unknown := by
  obtain ⟨receiver, i, hbuild, hinlet, hphysical, hfederate, hrender⟩ :
      ∃ receiver i,
        build ⟨2⟩ triangle .decentralized (fun _ => .zero) = .ok receiver ∧
        receiver.inlet? ⟨2⟩ = some i ∧ i.connection.physical = true ∧
        receiver.federate = ⟨2⟩ ∧
        i.connection.render = "0:first.raw ~> 2:last.raw" :=
    ⟨_, _, rfl, rfl, rfl, rfl, rfl⟩
  obtain ⟨hframe, hrow⟩ := refused_unless_fitting receiver ⟨2⟩ i hinlet
  rw [hfederate] at hframe hrow
  refine ⟨receiver, i, hbuild, hinlet, hphysical, ?_, ?_, ?_⟩
  · rw [(hframe (.peerTaggedMessage ⟨⟨2⟩, ⟨2⟩, ⟨.epoch, 6⟩, .empty⟩) _ _ _ rfl
      rfl).2 ?_ rfl]
    · rw [Frame.misfit, hrender]
      rfl
    · rw [Frame.fits_physical_iff hphysical]
      exact nofun
  · exact (hframe (.portAbsent ⟨⟨2⟩, ⟨2⟩, ⟨.epoch, 6⟩⟩) _ _ _ rfl rfl).1.mpr
      (.inr rfl)
  · refine ((hrow hphysical triangleTraffic {}).2.1 _).mpr ⟨rfl, ?_⟩
    rintro ⟨arrival, harrival, t, hnotice, -⟩
    have hnone : ∀ arrival ∈ triangleTraffic, arrival.frame.isNotice = true →
        arrival.frame.action? ≠ some ⟨2⟩ := by decide
    exact hnone arrival harrival (by rw [hnotice]; rfl) (by rw [hnotice]; rfl)

/-- A notice for a physical action is taken in, and recorded. -/
theorem notice_recorded_for_physical :
    ∃ receiver i,
      build ⟨2⟩ triangle .decentralized (fun _ => .zero) = .ok receiver ∧
      receiver.inlet? ⟨2⟩ = some i ∧ i.connection.physical = true ∧
      let frame := .portAbsent ⟨⟨2⟩, ⟨2⟩, ⟨.epoch, 6⟩⟩
      ¬ frame.Fits i.connection ∧
      (receiver.dispatch (.federate ⟨0⟩) .epoch frame {}).1 = .ok .absentRecorded ∧
      (receiver.dispatch (.federate ⟨0⟩) .epoch frame {}).2.board.status ⟨2⟩
        ⟨.epoch, 6⟩ = .absent :=
  ⟨_, _, rfl, rfl, rfl, by decide, rfl, by decide⟩

end Plan

end Federation
