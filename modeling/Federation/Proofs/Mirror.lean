/-
Federation/Proofs/Mirror.lean

The board of the receiver mirrors what the sender did.

At each tag an outlet has its turn twice, to send a value and to announce an
absence. If both succeed, exactly one frame leaves over a logical connection,
and it is a mark of the delayed tag (`turn_recording`). So from tags that go
forward comes a row of marks (`Connection.marks`), and as delays keep the order
of tags, the last mark is the latest.

The receiver takes the frames in as the marks that they are, whatever else
arrives in between (`took_dispatchAll`). If it had heard nothing of the
connection before, its board says of a tag (`Connection.mirrored`)

* present, if a value was set at a tag that leads to it;
* absent, if no value was, and the last tag leads to it or beyond;
* unknown, if it lies behind all that.
-/
import Mathlib
import Federation.Proofs.Agreement
import Federation.Proofs.Exchange

namespace Federation

variable {μ : Type}

/-! ### What there is to mirror -/

namespace Connection

variable (c : Connection)

/-- The marks that a sender with the given views makes: one for each tag that
can be delayed. -/
def marks (views : List (PortView μ)) : List (Tag × Bool) :=
  views.filterMap fun view =>
    match view.tag.delayed c.delay with
    | .ok arrival => some (arrival, (view.value? c.source.port).isSome)
    | .error _ => none

/-- What a receiver should know of a tag, if the sender went through the given
views. -/
def mirrored (views : List (PortView μ)) (g : Tag) : PortStatus :=
  if ∃ view ∈ views,
    (view.value? c.source.port).isSome ∧ view.tag.delayed c.delay = .ok g then
    .present
  else if views.getLast?.any fun last =>
    (last.tag.delayed c.delay).toOption.any (g ≤ ·) then
    .absent
  else .unknown

variable {c} {views earlier : List (PortView μ)} {view : PortView μ}
  {g arrival : Tag}

theorem marks_cons (h : view.tag.delayed c.delay = .ok arrival) :
    c.marks (view :: views) = (arrival, (view.value? c.source.port).isSome) ::
      c.marks views := by
  rw [marks, List.filterMap_cons, h]
  rfl

theorem marks_concat (h : view.tag.delayed c.delay = .ok arrival) :
    c.marks (earlier ++ [view])
      = c.marks earlier ++ [(arrival, (view.value? c.source.port).isSome)] := by
  rw [marks, List.filterMap_append]
  change c.marks earlier ++ c.marks [view] = _
  rw [marks_cons h]
  rfl

theorem mem_marks_iff {message : Bool} :
    (g, message) ∈ c.marks views ↔
      ∃ view ∈ views, (view.value? c.source.port).isSome = message ∧
        view.tag.delayed c.delay = .ok g := by
  rw [marks, List.mem_filterMap]
  refine exists_congr fun view => and_congr_right fun _ => ?_
  rcases view.tag.delayed c.delay with e | arrival
  · simp
  · simp [and_comm]

/-- If the tags go forward, no mark is later than the last. -/
theorem exists_le_mark_iff (hincreasing : views.Pairwise (·.tag < ·.tag))
    (hdelayed : ∀ view ∈ views, (view.tag.delayed c.delay).isOk) :
    (∃ mark ∈ c.marks views, g ≤ mark.1) ↔
      views.getLast?.any
        (fun last => (last.tag.delayed c.delay).toOption.any (g ≤ ·)) = true := by
  rcases List.eq_nil_or_concat' views with rfl | ⟨earlier, last, rfl⟩
  · simp [marks]
  · rcases hlast : last.tag.delayed c.delay with e | arrival
    · have hok := hdelayed last (by simp)
      rw [hlast] at hok
      cases hok
    · have hmem : (arrival, (last.value? c.source.port).isSome)
          ∈ c.marks (earlier ++ [last]) :=
        mem_marks_iff.mpr ⟨last, by simp, rfl, hlast⟩
      rw [List.getLast?_concat]
      simp only [Option.any_some, hlast, Except.toOption, decide_eq_true_eq]
      constructor
      · -- a mark of an earlier tag is no later than the last, as the delay
        -- keeps their order
        rintro ⟨⟨tag, message⟩, hmark, hle⟩
        obtain ⟨view, hview, -, htag⟩ := mem_marks_iff.mp hmark
        rcases List.mem_append.mp hview with hview | hview
        · have hlt :=
            (List.pairwise_append.mp hincreasing).2.2 view hview last (by simp)
          exact Tag.le_trans hle (Tag.delayed_mono hlt htag hlast)
        · obtain rfl := List.mem_singleton.mp hview
          cases hlast.symm.trans htag
          exact hle
      · exact fun hle => ⟨_, hmem, hle⟩

end Connection

/-- A board that has heard nothing of an input and takes the marks of a sender
mirrors it. -/
theorem Board.Took.status_eq_mirrored {b b' : Board} {port : PortId}
    {c : Connection} {views : List (PortView μ)}
    (htook : b.Took port (c.marks views) b') (hblank : b.ports[port]? = none)
    (hincreasing : views.Pairwise (·.tag < ·.tag))
    (hdelayed : ∀ view ∈ views, (view.tag.delayed c.delay).isOk) (g : Tag) :
    b'.status port g = c.mirrored views g := by
  have hunknown : b.status port g = .unknown := by rw [status, hblank]
  have hpresent : b'.status port g = .present ↔ ∃ view ∈ views,
      (view.value? c.source.port).isSome ∧ view.tag.delayed c.delay = .ok g := by
    rw [htook.present, hunknown, ← Connection.mem_marks_iff]
    simp
  have hknown : b'.status port g = .unknown ↔ ¬ ∃ mark ∈ c.marks views,
      g ≤ mark.1 := by
    rw [htook.unknown, hunknown]
    simp only [true_and, not_exists, not_and]
  rw [Connection.exists_le_mark_iff hincreasing hdelayed] at hknown
  unfold Connection.mirrored
  rw [if_congr hpresent.symm rfl rfl]
  rcases hstatus : b'.status port g with - | - | -
  · rw [if_neg (by decide), if_neg (hknown.mp hstatus)]
  · rw [if_pos rfl]
  · rw [if_neg (by decide), if_pos]
    by_contra hlast
    cases hstatus.symm.trans (hknown.mpr hlast)

/-! ### What the sender sends -/

/-- Sends as `post` does, and keeps all frames in a list. -/
def Post.recording {σ : Type} (post : Post σ) : Post (σ × List Frame) :=
  fun parcel s =>
  ((post parcel s.1).1, (post parcel s.1).2, s.2 ++ [parcel.frame])

namespace Outlet

variable {σ : Type} {o : Outlet} {ctx : Context μ} {view : PortView μ}
  {m : Coordination}

/-- Both turns of the outlet at a tag: it sends its value, and it announces its
absence. -/
def turn (o : Outlet) (post : Post σ) (ctx : Context μ)
    (view : PortView μ) (s : σ) :
    (Except Fault SendOutcome × Except Fault Bool) × σ :=
  let (sent, s) := o.send post ctx view s
  let (announced, s) := o.announce post ctx view s
  ((sent, announced), s)

/-- A turn that succeeds sends what was to send. -/
theorem send_recording {post : Post σ} {st : σ × List Frame}
    (h : (o.send (Post.recording post) ctx view st).1.isOk) :
    ∃ parcel?, o.message? ctx view = .ok parcel? ∧
      (o.send (Post.recording post) ctx view st).2.2
        = st.2 ++ (parcel?.map (·.frame)).toList := by
  rcases hmessage : o.message? ctx view with e | - | parcel
  · rw [send, hmessage] at h
    cases h
  · exact ⟨none, rfl, by simp [send, hmessage]⟩
  · exact ⟨some parcel, rfl, by simp [send, hmessage, Post.recording]⟩

theorem announce_recording {post : Post σ} {st : σ × List Frame}
    (h : (o.announce (Post.recording post) ctx view st).1.isOk) :
    ∃ parcel?, o.notice? ctx view = .ok parcel? ∧
      (o.announce (Post.recording post) ctx view st).2.2
        = st.2 ++ (parcel?.map (·.frame)).toList := by
  rcases hnotice : o.notice? ctx view with e | - | parcel
  · rw [announce, hnotice] at h
    cases h
  · exact ⟨none, rfl, by simp [announce, hnotice]⟩
  · refine ⟨some parcel, rfl, ?_⟩
    simp only [announce, hnotice, Post.recording]
    rcases (post parcel st.1).1 with e | u <;> rfl

/-- If both turns succeed, one frame leaves, and it marks whether there was a
value. -/
theorem turn_recording (hlogical : o.connection.physical = false)
    (hview : view.Consistent o.connection.source.port) {post : Post σ}
    {st : σ × List Frame}
    (hsent : (o.turn (Post.recording post) ctx view st).1.1.isOk)
    (hannounced : (o.turn (Post.recording post) ctx view st).1.2.isOk) :
    ∃ arrival frame, view.tag.delayed o.connection.delay = .ok arrival ∧
      frame.Marks o.port o.receiver arrival
        (view.value? o.connection.source.port).isSome ∧
      (o.turn (Post.recording post) ctx view st).2.2 = st.2 ++ [frame] := by
  obtain ⟨parcel?, hmessage, hsend⟩ := send_recording hsent
  obtain ⟨notice?, hnotice, hannounce⟩ := announce_recording
    (show (o.announce (Post.recording post) ctx view
      (o.send (Post.recording post) ctx view st).2).1.isOk from hannounced)
  have hframes : (o.turn (Post.recording post) ctx view st).2.2
      = st.2 ++ (parcel?.map (·.frame)).toList ++
        (notice?.map (·.frame)).toList := by
    rw [← hsend]
    exact hannounce
  have hpresent :
      view.isPresent o.connection.source.port = (o.value? view).isSome := by
    rw [value?_of_consistent hview]
    exact hview
  rw [← value?_of_consistent hview]
  -- of the two turns exactly one has something to send, as presence and value
  -- go together
  rcases message?_ok hmessage with
    ⟨hvalue, rfl⟩ | ⟨value, payload, frame, hvalue, -, hframe, rfl⟩
  · rcases notice?_ok hnotice with ⟨hport, rfl⟩ | ⟨arrival, -, htag, rfl⟩
    · rw [hport, hvalue] at hpresent
      cases hpresent
    · refine ⟨arrival, .portAbsent ⟨o.port, o.receiver, arrival⟩,
        arrivalTag_ok htag, ?_, ?_⟩
      · rw [hvalue]
        exact .portAbsent
      · rw [hframes]
        simp
  · rcases notice?_ok hnotice with ⟨-, rfl⟩ | ⟨arrival, hport, -, rfl⟩
    · -- the message marks the tag at which it arrives
      obtain ⟨arrival, hdelayed, hmarks⟩ := frame_ok hlogical hframe
      refine ⟨arrival, frame, hdelayed, ?_, ?_⟩
      · rw [hvalue]
        exact hmarks
      · rw [hframes]
        simp
    · rw [hport, hvalue] at hpresent
      cases hpresent

/-- A run of turns that succeed sends the marks of its tags. -/
theorem turns_recording (hlogical : o.connection.physical = false)
    {post : Post σ} {views : List (PortView μ)}
    (hviews : ∀ view ∈ views, view.Consistent o.connection.source.port)
    {st : σ × List Frame}
    (hok : ∀ turn ∈ (inTurn (o.turn (Post.recording post) ctx) views st).1,
      turn.1.isOk ∧ turn.2.isOk) :
    (∀ view ∈ views, (view.tag.delayed o.connection.delay).isOk) ∧
    ∃ sent,
      (inTurn (o.turn (Post.recording post) ctx) views st).2.2 = st.2 ++ sent ∧
      List.Forall₂ (fun mark frame => frame.Marks o.port o.receiver mark.1 mark.2)
        (o.connection.marks views) sent := by
  induction views generalizing st with
  | nil =>
    refine ⟨fun view h => ?_, [], (List.append_nil _).symm, .nil⟩
    cases h
  | cons view views ih =>
    rw [List.forall_mem_cons] at hviews
    rw [inTurn_cons, List.forall_mem_cons] at hok
    obtain ⟨⟨hsent, hannounced⟩, hrest⟩ := hok
    obtain ⟨arrival, frame, hdelayed, hmarks, hturn⟩ :=
      turn_recording hlogical hviews.1 hsent hannounced
    obtain ⟨hall, sent, hframes, hforall⟩ := ih hviews.2 hrest
    refine ⟨List.forall_mem_cons.mpr ⟨by rw [hdelayed]; rfl, hall⟩,
      frame :: sent, ?_, ?_⟩
    · rw [inTurn_cons, hframes, hturn, List.append_assoc, List.singleton_append]
    · rw [Connection.marks_cons hdelayed]
      exact .cons hmarks hforall

end Outlet

/-! ### What the receiver takes in -/

/-- A frame that arrives: where it comes from, and what the clock shows. -/
structure Incoming where
  source : Destination
  now : Instant
  frame : Frame

/-- An outlet carries what its sender shows at some tags, which go forward, to
where frames arrive. Both its turns succeed at each of the tags, and of the
frames that arrive those for its action are the ones that were sent, in order.
-/
structure Outlet.Carries {σ : Type} (o : Outlet) (ctx : Context μ) (post : Post σ)
    (st : σ) (views : List (PortView μ)) (arrivals : List Incoming) : Prop where
  consistent : ∀ view ∈ views, view.Consistent o.connection.source.port
  increasing : views.Pairwise (·.tag < ·.tag)
  succeed : ∀ turn ∈ (inTurn (o.turn (Post.recording post) ctx) views (st, [])).1,
    turn.1.isOk ∧ turn.2.isOk
  arrive : (arrivals.filter (·.frame.action? = some o.port)).map (·.frame)
    = (inTurn (o.turn (Post.recording post) ctx) views (st, [])).2.2

namespace Plan

open Connection

/-- Takes in a frame that arrives. -/
def dispatchIncoming (plan : Plan) (arrival : Incoming) (inbox : Inbox) :
    Except Fault Dispatched × Inbox :=
  plan.dispatch arrival.source arrival.now arrival.frame inbox

/-- The board takes the frames for an input as the marks that they are, whatever
else arrives. -/
theorem took_dispatchAll {plan : Plan} {port : PortId} {i : Inlet}
    (hinlet : plan.inlet? port = some i)
    (hlogical : i.connection.physical = false) {arrivals : List Incoming}
    {marks : List (Tag × Bool)} {inbox : Inbox} (h : List.Forall₂
      (fun mark frame => frame.Marks port plan.federate mark.1 mark.2) marks
      ((arrivals.filter (·.frame.action? = some port)).map (·.frame))) :
    inbox.board.Took port marks
      (inTurn plan.dispatchIncoming arrivals inbox).2.board := by
  induction arrivals generalizing marks inbox with
  | nil =>
    cases h
    exact Board.took_nil fun g => rfl
  | cons arrival arrivals ih =>
    rw [inTurn_cons]
    by_cases haction : arrival.frame.action? = some port
    · rw [List.filter_cons_of_pos (by simpa using haction), List.map_cons] at h
      rcases marks with - | ⟨⟨tag, message⟩, marks⟩
      · cases h
      · obtain ⟨hmark, hmarks⟩ := List.forall₂_cons.mp h
        have hboard :=
          dispatch_of_marks arrival.source arrival.now inbox hinlet hlogical hmark
        have htook := Board.took_mark inbox.board port tag message
        rw [← hboard] at htook
        exact htook.trans (ih hmarks)
    · -- the frame is for another input, or for none: no mark is used up
      rw [List.filter_cons_of_neg (by simpa using haction)] at h
      have hsame :
          inbox.board.Took port [] (plan.dispatchIncoming arrival inbox).2.board :=
        Board.took_nil (status_dispatch_of_ne haction)
      exact hsame.trans (ih h)

/-! ### Both sides together -/

/-- The logical connection `c` at place `k` joins two federates. The plans of
both are made from the same connections, and the sender has the outlet `o` for
it. -/
structure Joins (cs : List Connection) (m : Coordination) (k : Nat) (c : Connection)
    (sender receiver : Plan) (o : Outlet) : Prop where
  build_sender : ∃ stp, build sender.federate cs m stp = .ok sender
  build_receiver : ∃ stp, build receiver.federate cs m stp = .ok receiver
  place : cs[k]? = some c
  leaves : c.leaves sender.federate = true
  leads : c.leadsTo receiver.federate = true
  logical : c.isLogical = true
  outlet : sender.outletOf cs k = some o

section

variable {cs : List Connection} {m : Coordination} {k : Nat} {c : Connection}
  {sender receiver : Plan}
variable {o : Outlet} {σ : Type} {ctx : Context μ} {post : Post σ} {st : σ}
  {views : List (PortView μ)}
variable {arrivals : List Incoming} {inbox : Inbox}

theorem Joins.outlet_eq (h : Joins cs m k c sender receiver o) :
    o = ⟨c, portAt cs k c⟩ := by
  obtain ⟨stp, hs⟩ := h.build_sender
  exact Option.some.inj (h.outlet.symm.trans (outletOf_entry hs h.place h.leaves))

/-- The receiver has an inlet for what the outlet sends. -/
theorem Joins.exists_inlet (h : Joins cs m k c sender receiver o) :
    ∃ i, receiver.inlet? o.port = some i ∧ i.connection = c := by
  obtain ⟨stp, hd⟩ := h.build_receiver
  refine ⟨⟨⟨c, portAt cs k c⟩, maxStp m stp c.destination.port⟩, ?_, rfl⟩
  rw [h.outlet_eq]
  exact (inlet?_portAt hd h.place h.leads).trans (inletOf_entry hd h.place h.leads)

/-- What was sent on a logical connection arrives at its inlet as the marks of
the sender's tags. -/
theorem arrivals_are_marks (hjoins : Joins cs m k c sender receiver o)
    (hcarries : o.Carries ctx post st views arrivals) :
    (∀ view ∈ views, (view.tag.delayed c.delay).isOk) ∧
    ∃ i, receiver.inlet? o.port = some i ∧ i.connection.physical = false ∧
      List.Forall₂
        (fun mark frame => frame.Marks o.port receiver.federate mark.1 mark.2)
        (c.marks views)
        ((arrivals.filter (·.frame.action? = some o.port)).map (·.frame)) := by
  have hphysical : c.physical = false := Connection.isLogical_iff.mp hjoins.logical
  obtain ⟨i, hinlet, hi⟩ := hjoins.exists_inlet
  have ho := hjoins.outlet_eq
  have hconnection : o.connection = c := by rw [ho]
  have hreceiver : o.receiver = receiver.federate := by
    rw [Outlet.receiver, hconnection]
    exact leadsTo_iff.mp hjoins.leads
  rw [← hconnection] at hphysical
  obtain ⟨hdelayed, sent, hsent, hmarks⟩ :=
    Outlet.turns_recording hphysical hcarries.consistent hcarries.succeed
  rw [hconnection] at hdelayed hmarks
  rw [List.nil_append] at hsent
  rw [hreceiver] at hmarks
  rw [hcarries.arrive, hsent]
  exact ⟨hdelayed, i, hinlet, by rw [hi, ← hconnection]; exact hphysical, hmarks⟩

/-- **The board mirrors the sender.** If a logical connection joins two
federates and its outlet carries what the sender shows, then the board of the
receiver, which had heard nothing of its action, says of every tag what there is
to mirror. -/
theorem board_mirrors_sender (hjoins : Joins cs m k c sender receiver o)
    (hcarries : o.Carries ctx post st views arrivals)
    (hblank : inbox.board.ports[o.port]? = none) (g : Tag) :
    (inTurn receiver.dispatchIncoming arrivals inbox).2.board.status o.port g
      = c.mirrored views g := by
  obtain ⟨hdelayed, i, hinlet, hphysical, hmarks⟩ :=
    arrivals_are_marks hjoins hcarries
  exact (took_dispatchAll hinlet hphysical hmarks).status_eq_mirrored hblank
    hcarries.increasing hdelayed g

end

/-- What the first federate of the triangle shows at two tags: a value, and none. -/
def triangleViews : List (PortView Empty) :=
  [⟨⟨.epoch, 3⟩, fun _ => true, fun _ => some (.text "a")⟩,
   ⟨⟨.epoch, 5⟩, fun _ => false, fun _ => none⟩]

/-- What then arrives at the last one, with a notice for another input in
between. -/
def triangleArrivals : List Incoming :=
  [⟨.federate ⟨0⟩, .epoch,
    .peerTaggedMessage ⟨⟨0⟩, ⟨2⟩, ⟨.epoch, 4⟩, "a".toByteArray.push 0⟩⟩,
   ⟨.federate ⟨1⟩, .epoch, .portAbsent ⟨⟨1⟩, ⟨2⟩, .forever⟩⟩,
   ⟨.federate ⟨0⟩, .epoch, .portAbsent ⟨⟨0⟩, ⟨2⟩, ⟨.epoch, 6⟩⟩⟩]

theorem triangle_joins : ∃ sender receiver,
    build ⟨0⟩ triangle .decentralized (fun _ => .zero) = .ok sender ∧
    build ⟨2⟩ triangle .decentralized (fun _ => .zero) = .ok receiver ∧
    Joins triangle .decentralized 0 triangle[0] sender receiver
      ⟨triangle[0], ⟨0⟩⟩ :=
  ⟨_, _, rfl, rfl, ⟨fun _ => .zero, rfl⟩, ⟨fun _ => .zero, rfl⟩, rfl, rfl,
    rfl, rfl, rfl⟩

theorem triangle_carries :
    (⟨triangle[0], ⟨0⟩⟩ : Outlet).Carries ⟨⟨0⟩, .decentralized, .zero, {}⟩
    Outbox.post {} triangleViews triangleArrivals where
  consistent := by simp [triangleViews, PortView.Consistent]
  increasing := by simp [triangleViews]; decide
  succeed := by decide
  arrive := rfl

theorem board_mirrors_sender_on_triangle :
    ∃ receiver, build ⟨2⟩ triangle .decentralized (fun _ => .zero) = .ok receiver ∧
      let board := (inTurn receiver.dispatchIncoming triangleArrivals {}).2.board
      board.status ⟨0⟩ ⟨.epoch, 4⟩ = .present ∧
        board.status ⟨0⟩ ⟨.epoch, 6⟩ = .absent ∧
        board.status ⟨0⟩ ⟨.epoch, 7⟩ = .unknown := by
  obtain ⟨sender, receiver, -, hbuild, hjoins⟩ := triangle_joins
  have hblank : ({} : Inbox).board.ports[(⟨0⟩ : PortId)]? = none := rfl
  have hmirror := board_mirrors_sender hjoins triangle_carries hblank
  exact ⟨receiver, hbuild, (hmirror _).trans (by decide),
    (hmirror _).trans (by decide),
    (hmirror _).trans (by decide)⟩

end Plan

end Federation
