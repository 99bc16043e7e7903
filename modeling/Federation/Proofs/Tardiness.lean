/-
Federation/Proofs/Tardiness.lean

Which messages are tardy.

The frames of a connection arrive in the order in which they were sent, so one
might think that no message finds its tag taken for absent, unless a wait has
taken it so. This holds as long as the delay keeps the tags of the sender apart
(`Connection.verdict_ne_tardy`). A positive delay does not: it leads all
microsteps of an instant to one tag. If the port was not set at one of them, the
notice says that the tag is absent, and the message of a later microstep comes
for the very same tag (`Plan.absence_forestalls_message`).

The main result says of every frame what becomes of it. A message is tardy
exactly if it was forestalled (`Connection.Forestalled`): some earlier tag
merges with its own, and at none that does so was the port set. There is one odd
case besides: the least tag of all, which the blank record has as absent
already.
-/
import Mathlib
import Federation.Proofs.Mirror

namespace Federation

variable {μ : Type}

/-! ### What is to become of the frames -/

namespace Connection

variable (c : Connection)

/-- Whether what leaves at the one tag arrives together with what leaves at the
other. -/
def Merges (a b : Tag) : Prop := 0 < c.delay.interval.ns ∧ a.time = b.time

instance (a b : Tag) : Decidable (c.Merges a b) :=
  inferInstanceAs (Decidable (_ ∧ _))

/-- Whether a message comes for a tag that has been taken for absent after the
earlier views. -/
def Forestalled (earlier : List (PortView μ)) (view : PortView μ) : Prop :=
  (c.delay = none ∧ view.tag = .never) ∨
  (∃ v ∈ earlier, c.Merges v.tag view.tag) ∧
    ∀ v ∈ earlier, c.Merges v.tag view.tag → (v.value? c.source.port).isNone

instance (earlier : List (PortView μ)) (view : PortView μ) :
    Decidable (c.Forestalled earlier view) :=
  inferInstanceAs (Decidable (_ ∨ _ ∧ _))

/-- What is to become of the frame that leaves at a view, after the earlier ones. -/
def verdict (earlier : List (PortView μ)) (view : PortView μ) : Dispatched :=
  if (view.value? c.source.port).isNone then .absentRecorded
  else if c.Forestalled earlier view then .tardy
  else .delivered

/-- What is to become of the frames that leave at the views, after the earlier
ones. -/
def verdicts (earlier : List (PortView μ)) : List (PortView μ) → List Dispatched
  | [] => []
  | view :: views => c.verdict earlier view :: verdicts (earlier ++ [view]) views

variable {c} {earlier : List (PortView μ)} {view : PortView μ}

/-- Where delays do not bring tags together, no message is tardy. -/
theorem verdict_ne_tardy (hdelay : ¬ 0 < c.delay.interval.ns)
    (hnever : view.tag ≠ .never) :
    c.verdict earlier view ≠ .tardy := by
  have hfree : ¬ c.Forestalled earlier view := by
    rintro (⟨-, htag⟩ | ⟨⟨v, -, hpositive, -⟩, -⟩)
    · exact hnever htag
    · exact hdelay hpositive
  unfold verdict
  rw [if_neg hfree]
  split <;> exact nofun

end Connection

/-! ### What the board makes of them -/

namespace Board

variable {b b' : Board} {port : PortId} {c : Connection}
  {earlier : List (PortView μ)} {view : PortView μ}
variable {arrival : Tag}

/-- What becomes of a frame that the board takes as a mark. -/
def answer (b : Board) (port : PortId) (tag : Tag) (message : Bool) : Dispatched :=
  if message then
    if (b.markPresent port tag).2 = .tardy then .tardy else .delivered
  else .absentRecorded

section Took

variable (htook : b.Took port (c.marks earlier) b')
  (hblank : ∀ g, b.status port g = .unknown)
  (hearlier : ∀ v ∈ earlier, v.tag < view.tag)
  (harrival : view.tag.delayed c.delay = .ok arrival)
include htook hblank hearlier harrival

/-- Of the earlier marks, those for the tag at which a view arrives are of the
tags that merge with it. -/
theorem Took.present_iff_merges :
    b'.status port arrival = .present ↔
      ∃ v ∈ earlier, (v.value? c.source.port).isSome ∧ c.Merges v.tag view.tag := by
  rw [htook.present, hblank, Connection.mem_marks_iff]
  simp only [reduceCtorEq, false_or]
  refine exists_congr fun v => and_congr_right fun hv => and_congr_right fun _ => ?_
  exact Tag.delayed_eq_iff (hearlier v hv) harrival

theorem Took.unknown_iff_merges :
    b'.status port arrival = .unknown ↔
      ∀ v ∈ earlier, ¬ c.Merges v.tag view.tag := by
  rw [htook.unknown, hblank]
  simp only [true_and]
  constructor
  · intro hbehind v hv hmerge
    have htag := (Tag.delayed_eq_iff (hearlier v hv) harrival).mpr hmerge
    exact hbehind _ (Connection.mem_marks_iff.mpr ⟨v, hv, rfl, htag⟩)
      (Tag.le_refl arrival)
  · -- no mark is later than the tag, so one that reaches it is a mark of the
    -- tag itself
    rintro hapart ⟨tag, message⟩ hmark hle
    obtain ⟨v, hv, -, htag⟩ := Connection.mem_marks_iff.mp hmark
    have heq : tag = arrival :=
      Tag.le_antisymm (Tag.delayed_mono (hearlier v hv) htag harrival) hle
    exact hapart v hv
      ((Tag.delayed_eq_iff (hearlier v hv) harrival).mp (heq ▸ htag))

theorem Took.absent_iff_merges :
    b'.status port arrival = .absent ↔
      (∃ v ∈ earlier, c.Merges v.tag view.tag) ∧
        ∀ v ∈ earlier,
          c.Merges v.tag view.tag → (v.value? c.source.port).isNone := by
  have hother : b'.status port arrival = .absent ↔
      ¬ b'.status port arrival = .unknown ∧
        ¬ b'.status port arrival = .present := by
    cases b'.status port arrival <;> simp
  rw [hother, htook.unknown_iff_merges hblank hearlier harrival,
    htook.present_iff_merges hblank hearlier harrival]
  push Not
  simp only [Option.isNone_iff_eq_none, Option.not_isSome_iff_eq_none, imp_not_comm]

/-- A board that has heard nothing but the earlier marks takes a message as
tardy if it was forestalled. -/
theorem Took.tardy_iff_forestalled :
    (b'.markPresent port arrival).2 = .tardy ↔ c.Forestalled earlier view := by
  have hleast :
      c.delay = none ∧ view.tag = .never → b'.status port arrival = .unknown := by
    rintro ⟨hdelay, -⟩
    refine (htook.unknown_iff_merges hblank hearlier harrival).mpr
      fun v hv hmerge => ?_
    have hpositive := hmerge.1
    rw [hdelay] at hpositive
    cases hpositive
  rw [markPresent_tardy_iff, Tag.delayed_eq_never_iff harrival,
    Connection.Forestalled, htook.absent_iff_merges hblank hearlier harrival,
    and_iff_right_of_imp hleast, or_comm]

theorem Took.answer_eq_verdict :
    b'.answer port arrival (view.value? c.source.port).isSome
      = c.verdict earlier view := by
  have htardy := htook.tardy_iff_forestalled hblank hearlier harrival
  unfold answer Connection.verdict
  rw [if_congr htardy rfl rfl]
  rcases view.value? c.source.port with - | value <;> rfl

end Took

end Board

/-! ### What the receiver makes of them -/

namespace Plan

open Connection

variable {plan : Plan} {port : PortId} {i : Inlet} {inbox : Inbox}

/-- What becomes of the frames for an input, in order, among all that arrive. -/
def resultsFor (plan : Plan) (port : PortId) (arrivals : List Incoming)
    (inbox : Inbox) : List (Except Fault Dispatched) :=
  ((arrivals.zip (inTurn plan.dispatchIncoming arrivals inbox).1).filter
    (·.1.frame.action? = some port)).map (·.2)

theorem resultsFor_cons_of_eq {arrival : Incoming} {arrivals : List Incoming}
    (h : arrival.frame.action? = some port) :
    plan.resultsFor port (arrival :: arrivals) inbox
      = (plan.dispatchIncoming arrival inbox).1 ::
          plan.resultsFor port arrivals
            (plan.dispatchIncoming arrival inbox).2 := by
  rw [resultsFor, inTurn_cons, List.zip_cons_cons,
    List.filter_cons_of_pos (by simpa using h)]
  rfl

theorem resultsFor_cons_of_ne {arrival : Incoming} {arrivals : List Incoming}
    (h : arrival.frame.action? ≠ some port) :
    plan.resultsFor port (arrival :: arrivals) inbox
      = plan.resultsFor port arrivals (plan.dispatchIncoming arrival inbox).2 := by
  rw [resultsFor, inTurn_cons, List.zip_cons_cons,
    List.filter_cons_of_neg (by simpa using h)]
  rfl

/-- The answer of the receiver to a mark is that of its board. -/
theorem result_dispatch_of_marks {tag : Tag} {message : Bool} {frame : Frame}
    (source : Destination) (now : Instant) (inbox : Inbox)
    (hinlet : plan.inlet? port = some i) (hlogical : i.connection.physical = false)
    (h : frame.Marks port plan.federate tag message) :
    (plan.dispatch source now frame inbox).1
      = .ok (inbox.board.answer port tag message) := by
  have haddressee := addressee_eq source hinlet
  have htagged : ∀ payload,
      (plan.dispatchTagged source now ⟨port, plan.federate, tag, payload⟩ inbox).1
        = .ok (inbox.board.answer port tag true) := by
    intro payload
    rw [dispatchTagged_eq (f := ⟨port, plan.federate, tag, payload⟩)
      haddressee hlogical]
    simp only [Inbox.deliverTagged, Board.answer, if_true]
    rcases inbox.board.markPresent port tag with ⟨board, - | -⟩ <;> rfl
  cases h with
  | peerTaggedMessage payload => exact htagged payload
  | taggedMessage payload => exact htagged payload
  | portAbsent =>
    simp only [dispatch, dispatchAbsent, haddressee]
    rfl

theorem exists_of_isOk {ε α : Type} {x : Except ε α} (h : x.isOk) :
    ∃ a, x = .ok a := by
  cases x with
  | error e => cases h
  | ok a => exact ⟨a, rfl⟩

/-- The receiver answers the frames of a connection as it is to, whatever else
arrives. -/
theorem resultsFor_eq_verdicts {c : Connection} {b : Board}
    {earlier views : List (PortView μ)} {arrivals : List Incoming}
    (hinlet : plan.inlet? port = some i) (hlogical : i.connection.physical = false)
    (hblank : ∀ g, b.status port g = .unknown)
    (hincreasing : (earlier ++ views).Pairwise (·.tag < ·.tag))
    (hdelayed : ∀ view ∈ views, (view.tag.delayed c.delay).isOk)
    (htook : b.Took port (c.marks earlier) inbox.board)
    (h : List.Forall₂ (fun mark frame => frame.Marks port plan.federate mark.1 mark.2)
      (c.marks views)
      ((arrivals.filter (·.frame.action? = some port)).map (·.frame))) :
    plan.resultsFor port arrivals inbox = (c.verdicts earlier views).map .ok := by
  -- the board goes through the arrivals, and `earlier` grows by each view whose
  -- frame has arrived
  induction arrivals generalizing earlier views inbox with
  | nil =>
    rcases views with - | ⟨view, views⟩
    · rfl
    · obtain ⟨arrival, harrival⟩ :=
        exists_of_isOk (hdelayed view List.mem_cons_self)
      rw [marks_cons harrival] at h
      cases h
  | cons arriving arrivals ih =>
    by_cases haction : arriving.frame.action? = some port
    · rw [List.filter_cons_of_pos (by simpa using haction), List.map_cons] at h
      rcases views with - | ⟨view, views⟩
      · cases h
      · rw [List.forall_mem_cons] at hdelayed
        obtain ⟨arrival, harrival⟩ := exists_of_isOk hdelayed.1
        rw [marks_cons harrival] at h
        obtain ⟨hmark, hmarks⟩ := List.forall₂_cons.mp h
        have hearlier : ∀ v ∈ earlier, v.tag < view.tag := fun v hv =>
          (List.pairwise_append.mp hincreasing).2.2 v hv view List.mem_cons_self
        -- what arrives is the frame of the next view, and is answered by what the
        -- earlier ones left
        have hresult : (plan.dispatchIncoming arriving inbox).1
            = .ok (c.verdict earlier view) := by
          rw [← htook.answer_eq_verdict hblank hearlier harrival]
          exact result_dispatch_of_marks _ _ inbox hinlet hlogical hmark
        have hboard : b.Took port (c.marks (earlier ++ [view]))
            (plan.dispatchIncoming arriving inbox).2.board := by
          have hmore :=
            Board.took_mark inbox.board port arrival
              (view.value? c.source.port).isSome
          rw [← dispatch_of_marks arriving.source arriving.now inbox hinlet
            hlogical hmark] at hmore
          rw [marks_concat harrival]
          exact htook.trans hmore
        rw [resultsFor_cons_of_eq haction, hresult,
          ih (by simpa using hincreasing) hdelayed.2 hboard hmarks]
        rfl
    · -- a frame for another action leaves the record of this one as it is
      rw [List.filter_cons_of_neg (by simpa using haction)] at h
      have hsame : b.Took port (c.marks earlier)
          (plan.dispatchIncoming arriving inbox).2.board := by
        have hother : inbox.board.Took port []
            (plan.dispatchIncoming arriving inbox).2.board :=
          Board.took_nil (status_dispatch_of_ne haction)
        simpa using htook.trans hother
      rw [resultsFor_cons_of_ne haction]
      exact ih hincreasing hdelayed hsame h

/-! ### Both sides together -/

/-- **Which messages are tardy.** If a logical connection joins two federates
and its outlet carries what the sender shows, then the receiver, which had heard
nothing of its action, records the notices and delivers the messages, and of the
messages it has those as tardy that were forestalled. -/
theorem dispatched_as_verdicts {cs : List Connection} {m : Coordination}
    {k : Nat} {c : Connection} {sender receiver : Plan} {o : Outlet} {σ : Type}
    {ctx : Context μ} {post : Post σ} {st : σ} {views : List (PortView μ)}
    {arrivals : List Incoming} (hjoins : Joins cs m k c sender receiver o)
    (hcarries : o.Carries ctx post st views arrivals)
    (hblank : inbox.board.ports[o.port]? = none) :
    receiver.resultsFor o.port arrivals inbox = (c.verdicts [] views).map .ok := by
  obtain ⟨hdelayed, i, hinlet, hphysical, hmarks⟩ :=
    arrivals_are_marks hjoins hcarries
  have hunknown : ∀ g, inbox.board.status o.port g = .unknown := fun g => by
    rw [Board.status, hblank]
  exact resultsFor_eq_verdicts hinlet hphysical hunknown
    hcarries.increasing hdelayed (Board.took_nil fun g => rfl) hmarks

theorem dispatched_as_verdicts_on_triangle :
    ∃ receiver, build ⟨2⟩ triangle .decentralized (fun _ => .zero) = .ok receiver ∧
      receiver.resultsFor ⟨0⟩ triangleArrivals {}
        = [.ok .delivered, .ok .absentRecorded] := by
  obtain ⟨sender, receiver, -, hbuild, hjoins⟩ := triangle_joins
  have hblank : ({} : Inbox).board.ports[(⟨0⟩ : PortId)]? = none := rfl
  have hresults := dispatched_as_verdicts hjoins triangle_carries hblank
  exact ⟨receiver, hbuild, hresults.trans (by decide)⟩

/-- One connection, which delays by ten nanoseconds. -/
def delayedLink : List Connection :=
  [{ source := ⟨⟨0⟩, { name := "a.out" }⟩, destination := ⟨⟨1⟩, { name := "a.in" }⟩
     delay := some ⟨10, by decide⟩, valueType := .text }]

/-- What its sender shows at the first two microsteps of an instant: no value,
then one. -/
def laterMicrostep : List (PortView Empty) :=
  [⟨⟨⟨100, by decide⟩, 0⟩, fun _ => false, fun _ => none⟩,
   ⟨⟨⟨100, by decide⟩, 1⟩, fun _ => true, fun _ => some (.text "5")⟩]

/-- The absence of a port at one microstep forestalls its value at the next. -/
theorem absence_forestalls_message :
    laterMicrostep.Pairwise (·.tag < ·.tag) ∧
    ∃ sender receiver o,
      build ⟨0⟩ delayedLink .decentralized (fun _ => .zero) = .ok sender ∧
      build ⟨1⟩ delayedLink .decentralized (fun _ => .zero) = .ok receiver ∧
      sender.outletOf delayedLink 0 = some o ∧
      let (turns, _, frames) := inTurn
        (o.turn (Post.recording Outbox.post) ⟨⟨0⟩, .decentralized, .zero, {}⟩)
        laterMicrostep ({}, [])
      turns = [(.ok .notPresent, .ok true), (.ok .sent, .ok false)] ∧
        receiver.resultsFor o.port
          (frames.map fun frame => ⟨.federate ⟨0⟩, .epoch, frame⟩) {}
          = [.ok .absentRecorded, .ok .tardy] :=
  ⟨by decide, _, _, _, rfl, rfl, rfl, rfl, rfl⟩

end Plan

end Federation
