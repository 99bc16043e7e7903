/-
Federation/Proofs/Inquiry.lean

To ask for an address until there is one.

A federate asks the coordinator where a peer listens. Data may come in front of
the answer, which is taken in; and the answer may be that the peer is not known
yet, in which case the federate pauses and asks again, as often as the policy
allows. Two loops are at work here, one within the other, over one stream.

`Inquiry` says step by step what is done and what comes of it, without either
loop: a federate that asks, and a federate that waits, each do one thing and go
on. The loops do just that (`proceed_of_inquiry`, by induction on the steps),
and from every place there is such a course (`exists_inquiry`, by induction on
what is still to come). What a course amounts to is then read off its steps, one
fact at a time: the questions, what is heard, the pauses and the result.
-/
import Mathlib
import Federation.Proofs.Admittance
import Federation.Proofs.Attempts
import Federation.Proofs.Disturbance
import Federation.Proofs.Registration

namespace Federation

open Procedure

/-- Frames from one source that come in one after another, each with what the
clock shows then. -/
def Incoming.row (source : Destination) : Clock → List Frame → List Incoming
  | _, [] => []
  | clock, f :: frames => ⟨source, clock.now, f⟩ :: row source clock.tick frames

/-- The frames are the next ones of the source, which is then the last source. -/
inductive Gives {κ : Type} [FrameSource κ] : κ → List Frame → κ → Prop
  | nil (s : κ) : Gives s [] s
  | cons {s s₁ s' : κ} {f : Frame} {frames : List Frame}
      (h : FrameSource.next s = (.ok f, s₁)) (hrest : Gives s₁ frames s') :
      Gives s (f :: frames) s'

namespace Joining

/-! ### What is done -/

/-- What is done to learn an address. -/
inductive Act where
  | ask
  | hear (f : Frame)
  | pause (length : Duration)
deriving DecidableEq

/-- The frame that is heard. -/
def Act.heard? : Act → Option Frame
  | .hear f => some f
  | _ => none

/-- The length of a pause. -/
def Act.pause? : Act → Option Duration
  | .pause length => some length
  | _ => none

/-- All frames that are heard. -/
def heard (acts : List Act) : List Frame := acts.filterMap Act.heard?

/-- All pauses. -/
def pauses (acts : List Act) : List Duration := acts.filterMap Act.pause?

/-- Whether the frame is an answer without an address. -/
def isUnknown : Frame → Bool
  | .addressQueryReply none _ => true
  | _ => false

theorem eq_of_isUnknown {f : Frame} (h : isUnknown f = true) :
    ∃ host, f = .addressQueryReply none host := by
  cases f with
  | addressQueryReply port host =>
    cases port with
    | none => exact ⟨host, rfl⟩
    | some port => cases h
  | _ => cases h

theorem isUnknown_of_isRelayed {f : Frame} (h : f.isRelayed = true) :
    isUnknown f = false := by
  cases f with
  | taggedMessage m => rfl
  | portAbsent notice => rfl
  | _ => cases h

/-- How many answers without an address are heard. -/
def unknowns (acts : List Act) : Nat := (heard acts).countP isUnknown

/-- A frame that does not end the inquiry: data that is taken in, or an answer
without an address. -/
def Passes (plan : Plan) (f : Frame) : Prop :=
  (f.isRelayed = true ∧ ∀ detail, ¬ plan.Refuses f detail) ∨ isUnknown f = true

/-- A frame that ends the inquiry, and its result. -/
inductive Decides (plan : Plan) (coordinator : HostAddress) :
    Frame → Except Fault ServerAddress → Prop
  | found (port : UInt16) (host : HostAddress) :
      Decides plan coordinator (.addressQueryReply (some port) host)
      (.ok ⟨if host = .unspecified then coordinator else host, port⟩)
  | refused {f : Frame} {detail : String} (hf : f.isRelayed = true)
      (h : plan.Refuses f detail) :
      Decides plan coordinator f (.error (.protocol "coordinator" detail))
  | unexpected {f : Frame} (hf : f.isRelayed = false)
      (h : ∀ port host, f ≠ .addressQueryReply port host) :
      Decides plan coordinator f
        (.error (.protocol "coordinator"
          ("expected AddressQueryReply, got " ++ f.kindName)))

theorem Decides.isUnknown_eq {plan : Plan} {coordinator : HostAddress}
    {f : Frame} {result : Except Fault ServerAddress}
    (h : Decides plan coordinator f result) : isUnknown f = false := by
  cases h with
  | found port host => rfl
  | refused hf _ => exact isUnknown_of_isRelayed hf
  | unexpected _ hother =>
    by_contra hunknown
    obtain ⟨host, rfl⟩ := eq_of_isUnknown (Bool.eq_true_of_not_eq_false hunknown)
    exact hother none host rfl

/-- What is to be done next: to ask, or to wait for the answer. -/
inductive Phase where
  | asking
  | waiting
deriving DecidableEq

/-- What is done from some place on, after `n` answers without an address, and
what comes of it. -/
inductive Inquiry {κ : Type} [FrameSource κ] (plan : Plan)
    (coordinator : HostAddress) (policy : RetryPolicy) (peer : FederateId) :
    Phase → Nat → Socket κ → List Act → Except Fault ServerAddress →
    Socket κ → Prop
  | unreachable {n : Nat} {link : Socket κ} (hn : n = policy.attempts) :
      Inquiry plan coordinator policy peer .asking n link []
        (.error (.unreachable ("address of " ++ peer.render) policy.attempts
          ⟨.notFound, "peer never advertised"⟩)) link
  | unsent {n : Nat} {link : Socket κ} {wire : Wire} {e : FrameError}
      (hn : n < policy.attempts)
      (h : link.wire.writeFrame (.addressQuery peer) = (.error e, wire)) :
      Inquiry plan coordinator policy peer .asking n link []
        (.error (.ofWrite "coordinator" e)) { link with wire }
  | ask {n : Nat} {link link' : Socket κ} {wire : Wire} {acts : List Act}
      {result : Except Fault ServerAddress} (hn : n < policy.attempts)
      (h : link.wire.writeFrame (.addressQuery peer) = (.ok (), wire))
      (hrest : Inquiry plan coordinator policy peer .waiting n
        { link with wire } acts result link') :
      Inquiry plan coordinator policy peer .asking n link
        (.ask :: acts) result link'
  | data {n : Nat} {link link' : Socket κ} {source : κ} {f : Frame}
      {acts : List Act} {result : Except Fault ServerAddress}
      (h : FrameSource.next link.source = (.ok f, source))
      (hf : f.isRelayed = true) (haccepts : ∀ detail, ¬ plan.Refuses f detail)
      (hrest : Inquiry plan coordinator policy peer .waiting n
        { link with source } acts result link') :
      Inquiry plan coordinator policy peer .waiting n link
        (.hear f :: acts) result link'
  | unanswered {n : Nat} {link link' : Socket κ} {source : κ} {host : HostAddress}
      {acts : List Act} {result : Except Fault ServerAddress}
      (h : FrameSource.next link.source = (.ok (.addressQueryReply none host), source))
      (hrest : Inquiry plan coordinator policy peer .asking (n + 1)
        { link with source } acts result link') :
      Inquiry plan coordinator policy peer .waiting n link
        (.hear (.addressQueryReply none host) :: .pause (policy.backoff n) :: acts)
        result link'
  | decided {n : Nat} {link : Socket κ} {source : κ} {f : Frame}
      {result : Except Fault ServerAddress}
      (h : FrameSource.next link.source = (.ok f, source))
      (hdecides : Decides plan coordinator f result) :
      Inquiry plan coordinator policy peer .waiting n link [.hear f] result
        { link with source }
  | unread {n : Nat} {link : Socket κ} {source : κ} {e : FrameError}
      (h : FrameSource.next link.source = (.error e, source)) :
      Inquiry plan coordinator policy peer .waiting n link []
        (.error (.ofRead "coordinator" e))
        { link with source }

variable {κ : Type} [FrameSource κ]
variable {plan : Plan} {coordinator : HostAddress} {policy : RetryPolicy}
  {peer : FederateId}
variable {phase : Phase} {n : Nat} {link link' : Socket κ} {source : κ}
  {wire : Wire}
variable {acts : List Act} {result : Except Fault ServerAddress}
  {d : Dialogue (Socket κ)} {f : Frame}

/-! ### The two loops -/

theorem nextControl_of_unread {e : FrameError}
    (h : FrameSource.next d.link.source = (.error e, source)) :
    nextControl plan d = (.error (.ofRead "coordinator" e),
      { d with link := { d.link with source } }) := by
  rw [nextControl]
  split
  · next h' =>
    cases (Socket.next_of_source h).symm.trans h'
    rfl
  · next h' => cases (Socket.next_of_source h).symm.trans h'

theorem nextControl_of_control
    (h : FrameSource.next d.link.source = (.ok f, source))
    (hf : f.isRelayed = false) :
    nextControl plan d = (.ok f, { d with link := { d.link with source } }) := by
  rw [nextControl]
  split
  · next h' => cases (Socket.next_of_source h).symm.trans h'
  · next h' =>
    cases (Socket.next_of_source h).symm.trans h'
    rw [if_neg (by rw [hf]; exact Bool.false_ne_true)]

theorem nextControl_of_refuses
    (h : FrameSource.next d.link.source = (.ok f, source))
    (hf : f.isRelayed = true) {detail : String}
    (hrefuses : plan.Refuses f detail) :
    nextControl plan d = (.error (.protocol "coordinator" detail),
      { d with link := { d.link with source }, clock := d.clock.tick }) := by
  have hdispatch :=
    Plan.dispatch_of_refuses .coordinator d.clock.now d.inbox hrefuses
  rw [nextControl]
  split
  · next h' => cases (Socket.next_of_source h).symm.trans h'
  · next h' =>
    cases (Socket.next_of_source h).symm.trans h'
    rw [if_pos hf, Dialogue.dispatch]
    simp only [hdispatch]
    rfl

theorem nextControl_of_accepts
    (h : FrameSource.next d.link.source = (.ok f, source))
    (hf : f.isRelayed = true) (haccepts : ∀ detail, ¬ plan.Refuses f detail) :
    nextControl plan d = nextControl plan { d with
      link := { d.link with source }
      clock := d.clock.tick
      inbox := (plan.dispatch .coordinator d.clock.now f d.inbox).2 } := by
  have hdispatch :=
    Plan.dispatch_of_accepts .coordinator d.clock.now d.inbox haccepts
  conv_lhs => rw [nextControl]
  split
  · next h' => cases (Socket.next_of_source h).symm.trans h'
  · next h' =>
    cases (Socket.next_of_source h).symm.trans h'
    rw [if_pos hf, Dialogue.dispatch]
    simp only [hdispatch]

/-- What is made of the answer to a question. -/
def answered (plan : Plan) (coordinator : HostAddress) (policy : RetryPolicy)
    (peer : FederateId) (left n : Nat) :
    Frame → Conversation (Socket κ) ServerAddress
  | .addressQueryReply (some port) host =>
    pure ⟨if host = .unspecified then coordinator else host, port⟩
  | .addressQueryReply none _ => do
    Conversation.pause (policy.backoff n)
    queryFrom plan coordinator policy peer left (n + 1)
  | f => throw (unexpected "AddressQueryReply" f)

/-- What is still to be done in a phase. -/
def proceed (plan : Plan) (coordinator : HostAddress) (policy : RetryPolicy)
    (peer : FederateId) : Phase → Nat → Conversation (Socket κ) ServerAddress
  | .asking, n => queryFrom plan coordinator policy peer (policy.attempts - n) n
  | .waiting, n => (nextControl plan : Conversation (Socket κ) Frame) >>=
      answered plan coordinator policy peer (policy.attempts - (n + 1)) n

/-- To ask is to send the question, and then to wait. -/
theorem proceed_asking (hn : n < policy.attempts) :
    proceed plan coordinator policy peer .asking n
      = (Conversation.send (σ := Socket κ) "coordinator" (.addressQuery peer)
          >>= fun _ => proceed plan coordinator policy peer .waiting n) := by
  have hleft : policy.attempts - n = policy.attempts - (n + 1) + 1 := by omega
  rw [proceed, hleft, queryFrom]
  rfl

/-- The dialogue after some acts, in which the data that was heard has been
taken in. -/
def afterActs (plan : Plan) (acts : List Act) (link : Socket κ)
    (d : Dialogue (Socket κ)) : Dialogue (Socket κ) where
  link := link
  clock := d.clock.after (Frame.relayed (heard acts)).length
  inbox := (inTurn plan.dispatchIncoming
    (Incoming.row .coordinator d.clock (Frame.relayed (heard acts))) d.inbox).2
  pauses := d.pauses ++ pauses acts

omit [FrameSource κ] in
@[simp] theorem afterActs_nil (link : Socket κ) (d : Dialogue (Socket κ)) :
    afterActs plan [] link d = { d with link } := by
  rw [afterActs, pauses, List.filterMap_nil, List.append_nil]
  rfl

omit [FrameSource κ] in
theorem afterActs_pause (length : Duration) (acts : List Act)
    (link link' : Socket κ) (d : Dialogue (Socket κ)) :
    afterActs plan (.pause length :: acts) link d
      = afterActs plan acts link
        { d with link := link', pauses := d.pauses ++ [length] } := by
  have hpauses : d.pauses ++ pauses (.pause length :: acts)
      = (d.pauses ++ [length]) ++ pauses acts :=
    List.append_cons _ _ _
  rw [afterActs, hpauses]
  rfl

omit [FrameSource κ] in
theorem afterActs_control (hf : f.isRelayed = false) (acts : List Act)
    (link link' : Socket κ) (d : Dialogue (Socket κ)) :
    afterActs plan (.hear f :: acts) link d
      = afterActs plan acts link { d with link := link' } := by
  have hheard :
      Frame.relayed (heard (.hear f :: acts)) = Frame.relayed (heard acts) :=
    Frame.relayed_cons_of_control hf
  rw [afterActs, hheard]
  rfl

omit [FrameSource κ] in
theorem afterActs_relayed (hf : f.isRelayed = true) (acts : List Act)
    (link link' : Socket κ) (d : Dialogue (Socket κ)) :
    afterActs plan (.hear f :: acts) link d = afterActs plan acts link { d with
      link := link'
      clock := d.clock.tick
      inbox := (plan.dispatch .coordinator d.clock.now f d.inbox).2 } := by
  have hheard :
      Frame.relayed (heard (.hear f :: acts)) = f :: Frame.relayed (heard acts) :=
    Frame.relayed_cons_of_relayed hf
  rw [afterActs, hheard, List.length_cons, Clock.after_succ]
  rfl

theorem send_of_writeFrame {x : Except FrameError Unit}
    (h : d.link.wire.writeFrame f = (x, wire)) (name : String) :
    Conversation.send name f d
      = (x.mapError (Fault.ofWrite name),
        { d with link := { d.link with wire } }) :=
  Conversation.send_of_send (Socket.send_of_writeFrame h) name

theorem answered_of_other
    (hother : ∀ port host, f ≠ .addressQueryReply port host) (left n : Nat) :
    answered (κ := κ) plan coordinator policy peer left n f
      = throw (unexpected "AddressQueryReply" f) := by
  cases f with
  | addressQueryReply port host => exact absurd rfl (hother port host)
  | _ => rfl

/-- The frame that ends the inquiry ends the wait for an answer. -/
theorem proceed_of_decides (h : FrameSource.next d.link.source = (.ok f, source))
    (hdecides : Decides plan coordinator f result) :
    proceed plan coordinator policy peer .waiting n d
      = (result, afterActs plan [.hear f] { d.link with source } d) := by
  rw [proceed]
  cases hdecides with
  | found port host =>
    rw [bind_of_ok (nextControl_of_control h rfl), afterActs_control rfl,
      afterActs_nil]
    rfl
  | refused hf hrefuses =>
    rw [bind_of_error (nextControl_of_refuses h hf hrefuses),
      afterActs_relayed hf _ _ d.link, afterActs_nil,
      Plan.dispatch_of_refuses _ _ _ hrefuses]
  | unexpected hf hother =>
    rw [bind_of_ok (nextControl_of_control h hf), answered_of_other hother,
      afterActs_control hf, afterActs_nil]
    rfl

/-- What is to be done in a phase comes to what its course says. -/
theorem proceed_of_inquiry
    (h : Inquiry plan coordinator policy peer phase n link acts result link') :
    ∀ d : Dialogue (Socket κ), d.link = link →
      proceed plan coordinator policy peer phase n d
        = (result, afterActs plan acts link' d) := by
  induction h with
  -- no attempt is left, and nothing is asked
  | unreachable hn =>
    rintro d rfl
    rw [proceed, hn, Nat.sub_self, queryFrom, afterActs_nil]
    rfl
  | unsent hn h =>
    rintro d rfl
    rw [proceed_asking hn, bind_of_error (send_of_writeFrame h _), afterActs_nil]
  | ask hn h hrest ih =>
    rintro d rfl
    rw [proceed_asking hn, bind_of_ok (send_of_writeFrame h _)]
    exact ih _ rfl
  -- the same phase goes on with data taken in
  | data h hf haccepts hrest ih =>
    rintro d rfl
    rw [proceed, bind_apply, nextControl_of_accepts h hf haccepts, ← bind_apply,
      afterActs_relayed hf]
    exact ih _ rfl
  | unanswered h hrest ih =>
    rintro d rfl
    rw [proceed, bind_of_ok (nextControl_of_control h rfl),
      afterActs_control rfl, afterActs_pause]
    exact ih _ rfl
  | decided h hdecides =>
    rintro d rfl
    exact proceed_of_decides h hdecides
  | unread h =>
    rintro d rfl
    rw [proceed, bind_of_error (nextControl_of_unread h), afterActs_nil]

/-! ### Every inquiry has a course -/

theorem passes_or_decides (plan : Plan) (coordinator : HostAddress) (f : Frame) :
    Passes plan f ∨ ∃ result, Decides plan coordinator f result := by
  cases hf : f.isRelayed with
  | true =>
    by_cases hrefuses : ∃ detail, plan.Refuses f detail
    · obtain ⟨detail, hrefuses⟩ := hrefuses
      exact .inr ⟨_, .refused hf hrefuses⟩
    · exact .inl (.inl ⟨hf, not_exists.mp hrefuses⟩)
  | false =>
    by_cases hreply : ∃ port host, f = .addressQueryReply port host
    · obtain ⟨- | port, host, rfl⟩ := hreply
      · exact .inl (.inr rfl)
      · exact .inr ⟨_, .found port host⟩
    · exact .inr ⟨_, .unexpected hf fun port host heq => hreply ⟨port, host, heq⟩⟩

/-- There is a course from where one asks, if there is one from where one waits
then. -/
theorem exists_inquiry_asking (link : Socket κ) (hn : n ≤ policy.attempts)
    (hwaiting : ∀ wire, n < policy.attempts →
      ∃ acts result link', Inquiry plan coordinator policy peer .waiting n
        { link with wire } acts result link') :
    ∃ acts result link',
      Inquiry plan coordinator policy peer .asking n link acts result link' := by
  rcases Nat.eq_or_lt_of_le hn with heq | hlt
  · exact ⟨_, _, _, .unreachable heq⟩
  · rcases hwrite : link.wire.writeFrame (.addressQuery peer) with ⟨e | ⟨⟩, wire⟩
    · exact ⟨_, _, _, .unsent hlt hwrite⟩
    · obtain ⟨acts, result, link', hrest⟩ := hwaiting wire hlt
      exact ⟨_, _, _, .ask hlt hwrite hrest⟩

theorem exists_inquiry_waiting (plan : Plan) (coordinator : HostAddress)
    (policy : RetryPolicy) (peer : FederateId) (hn : n < policy.attempts)
    (link : Socket κ) :
    ∃ acts result link',
      Inquiry plan coordinator policy peer .waiting n link acts result link' := by
  induction hsize : FrameSource.size link.source using Nat.strong_induction_on
    generalizing n link with
  | _ size ih =>
    rcases hnext : FrameSource.next link.source with ⟨e | f, source⟩
    · exact ⟨_, _, _, .unread hnext⟩
    · have hlt : FrameSource.size source < size :=
        hsize ▸ FrameSource.size_lt_of_next hnext
      rcases passes_or_decides plan coordinator f with
        (⟨hf, haccepts⟩ | hunknown) | ⟨result, hdecides⟩
      · obtain ⟨acts, result, link', hrest⟩ := ih _ hlt hn { link with source } rfl
        exact ⟨_, _, _, .data hnext hf haccepts hrest⟩
      · obtain ⟨host, rfl⟩ := eq_of_isUnknown hunknown
        -- the next question is asked with less to come
        obtain ⟨acts, result, link', hrest⟩ :=
          exists_inquiry_asking { link with source } (Nat.succ_le_of_lt hn)
            fun wire hmore =>
            ih _ hlt hmore { source, wire } rfl
        exact ⟨_, _, _, .unanswered hnext hrest⟩
      · exact ⟨_, _, _, .decided hnext hdecides⟩

/-- From every place there is a course of the inquiry. -/
theorem exists_inquiry (plan : Plan) (coordinator : HostAddress)
    (policy : RetryPolicy) (peer : FederateId) (link : Socket κ) :
    ∃ acts result link',
      Inquiry plan coordinator policy peer .asking 0 link acts result link' :=
  exists_inquiry_asking _ (Nat.zero_le _) fun _ hn =>
    exists_inquiry_waiting _ _ _ _ hn _

/-! ### What a course amounts to -/

/-- The questions that are asked and not answered. -/
def Phase.open : Phase → Nat
  | .asking => 0
  | .waiting => 1

theorem count_ask_hear (f : Frame) (acts : List Act) :
    (Act.hear f :: acts).count .ask = acts.count .ask :=
  List.count_cons_of_ne fun h => Act.noConfusion h

theorem count_ask_pause (length : Duration) (acts : List Act) :
    (Act.pause length :: acts).count .ask = acts.count .ask :=
  List.count_cons_of_ne fun h => Act.noConfusion h

theorem unknowns_data (hf : f.isRelayed = true) (acts : List Act) :
    unknowns (.hear f :: acts) = unknowns acts :=
  List.countP_cons_of_neg
    (by rw [isUnknown_of_isRelayed hf]; exact Bool.false_ne_true)

theorem unknowns_unanswered (host : HostAddress) (length : Duration)
    (acts : List Act) :
    unknowns (.hear (.addressQueryReply none host) :: .pause length :: acts)
      = unknowns acts + 1 :=
  List.countP_cons_of_pos rfl

theorem unknowns_decided (h : Decides plan coordinator f result) :
    unknowns [.hear f] = 0 :=
  List.countP_cons_of_neg (by rw [h.isUnknown_eq]; exact Bool.false_ne_true)

/-- Each question but the first comes right after the pause that follows an
answer without an address. -/
def AsksAgain (acts : List Act) : Prop :=
  ∀ before after,
    acts = before ++ .ask :: after → before = [] ∨
      ∃ earlier host length,
        before = earlier ++ [.hear (.addressQueryReply none host), .pause length]

/-- All questions are about the peer, and they are written, but that the last
one may fail. -/
def Asks (peer : FederateId) (acts : List Act)
    (result : Except Fault ServerAddress) (w w' : Wire) : Prop :=
  ∃ wire, w.Writes (List.replicate (acts.count .ask) (.addressQuery peer)) wire ∧
    (w' = wire ∨ ∃ e, wire.writeFrame (.addressQuery peer) = (.error e, w') ∧
      result = .error (.ofWrite "coordinator" e))

/-- What is heard is what comes, and nothing behind it is received, but that the
last read may fail. -/
def Hears (acts : List Act) (result : Except Fault ServerAddress)
    (s s' : κ) : Prop :=
  ∃ source, Gives s (heard acts) source ∧
    (s' = source ∨ ∃ e, FrameSource.next source = (.error e, s') ∧
      result = .error (.ofRead "coordinator" e))

/-- All that is heard passes, but that the last frame may decide. -/
def Settles (plan : Plan) (coordinator : HostAddress) (acts : List Act)
    (result : Except Fault ServerAddress) : Prop :=
  ∃ front, ∃ last : Option Frame,
    heard acts = front ++ last.toList ∧ (∀ f ∈ front, Passes plan f) ∧
    ∀ f ∈ last, Decides plan coordinator f result

section Course

variable (h : Inquiry plan coordinator policy peer phase n link acts result link')
include h

/-- There are no more questions than the policy allows. -/
theorem Inquiry.count_ask_le (hn : n + phase.open ≤ policy.attempts) :
    n + phase.open + acts.count .ask ≤ policy.attempts := by
  induction h with
  | ask hlt _ _ ih =>
    have hrest := ih hlt
    rw [List.count_cons_self]
    simp only [Phase.open] at hrest ⊢
    omega
  | data _ _ _ _ ih =>
    rw [count_ask_hear]
    exact ih hn
  | unanswered _ _ ih =>
    rw [count_ask_hear, count_ask_pause]
    exact ih hn
  | unreachable => exact hn
  | unsent => exact hn
  | decided => exact hn
  | unread => exact hn

/-- A question that is not the first thing of all comes right after the pause
that follows an answer without an address. -/
theorem Inquiry.before_ask {before after : List Act}
    (hacts : acts = before ++ .ask :: after) :
    phase = .asking ∧ before = [] ∨
      ∃ earlier host length,
        before
          = earlier ++ [.hear (.addressQueryReply none host), .pause length] := by
  induction h generalizing before with
  -- a question is followed by a wait, so the next one is not the first thing of
  -- what is left
  | ask _ _ _ ih =>
    rcases before with - | ⟨act, before⟩
    · exact .inl ⟨rfl, rfl⟩
    · obtain ⟨rfl, hrest⟩ := List.cons.inj hacts
      rcases ih hrest with ⟨hphase, -⟩ | ⟨earlier, host, length, rfl⟩
      · cases hphase
      · exact .inr ⟨.ask :: earlier, host, length, rfl⟩
  | @data _ _ _ _ f _ _ _ _ _ _ ih =>
    rcases before with - | ⟨act, before⟩
    · cases hacts
    · obtain ⟨rfl, hrest⟩ := List.cons.inj hacts
      rcases ih hrest with ⟨hphase, -⟩ | ⟨earlier, host, length, rfl⟩
      · cases hphase
      · exact .inr ⟨.hear f :: earlier, host, length, rfl⟩
  | @unanswered n _ _ _ host _ _ _ _ ih =>
    rcases before with - | ⟨act, - | ⟨act', before⟩⟩
    · cases hacts
    · cases hacts
    · obtain ⟨rfl, hrest⟩ := List.cons.inj hacts
      obtain ⟨rfl, htail⟩ := List.cons.inj hrest
      -- the question follows this very pause, or it comes later
      rcases ih htail with ⟨-, rfl⟩ | ⟨earlier, host', length, rfl⟩
      · exact .inr ⟨[], host, policy.backoff n, rfl⟩
      · exact .inr ⟨.hear (.addressQueryReply none host) ::
          .pause (policy.backoff n) :: earlier, host', length, rfl⟩
  | unreachable => simp at hacts
  | unsent => simp at hacts
  | decided => rcases before with - | ⟨act, - | ⟨act', before⟩⟩ <;> cases hacts
  | unread => simp at hacts

theorem Inquiry.asks : Asks peer acts result link.wire link'.wire := by
  induction h with
  | unsent _ h => exact ⟨_, .refl _, .inr ⟨_, h, rfl⟩⟩
  | @ask n link _ wire _ _ _ h _ ih =>
    obtain ⟨wire', hwrites, hend⟩ := ih
    have hwrite := Wire.writes_writeFrame (congrArg Prod.fst h)
    rw [h] at hwrite
    rw [Asks, List.count_cons_self, List.replicate_succ]
    exact ⟨wire', hwrite.trans hwrites, hend⟩
  | data _ _ _ _ ih =>
    rw [Asks, count_ask_hear]
    exact ih
  | unanswered _ _ ih =>
    rw [Asks, count_ask_hear, count_ask_pause]
    exact ih
  | unreachable => exact ⟨_, .refl _, .inl rfl⟩
  | decided => exact ⟨_, .refl _, .inl rfl⟩
  | unread => exact ⟨_, .refl _, .inl rfl⟩

theorem Inquiry.hears : Hears acts result link.source link'.source := by
  induction h with
  | ask _ _ _ ih => exact ih
  | data h _ _ _ ih =>
    obtain ⟨source, hgives, hend⟩ := ih
    exact ⟨source, .cons h hgives, hend⟩
  | unanswered h _ ih =>
    obtain ⟨source, hgives, hend⟩ := ih
    exact ⟨source, .cons h hgives, hend⟩
  | decided h _ => exact ⟨_, .cons h (.nil _), .inl rfl⟩
  | unread h => exact ⟨_, .nil _, .inr ⟨_, h, rfl⟩⟩
  | unreachable => exact ⟨_, .nil _, .inl rfl⟩
  | unsent => exact ⟨_, .nil _, .inl rfl⟩

theorem Inquiry.settles : Settles plan coordinator acts result := by
  induction h with
  | ask _ _ _ ih => exact ih
  | @data _ _ _ _ f _ _ _ hf haccepts _ ih =>
    obtain ⟨front, last, hheard, hpass, hdecides⟩ := ih
    exact ⟨f :: front, last, congrArg (f :: ·) hheard,
      List.forall_mem_cons.mpr ⟨.inl ⟨hf, haccepts⟩, hpass⟩, hdecides⟩
  | @unanswered _ _ _ _ host _ _ _ _ ih =>
    obtain ⟨front, last, hheard, hpass, hdecides⟩ := ih
    exact ⟨.addressQueryReply none host :: front, last, congrArg (_ :: ·) hheard,
      List.forall_mem_cons.mpr ⟨.inr rfl, hpass⟩, hdecides⟩
  | @decided _ _ _ f _ _ hdecides =>
    exact ⟨[], some f, rfl, List.forall_mem_nil _, by simpa using hdecides⟩
  | unread => exact ⟨[], none, rfl, List.forall_mem_nil _, by simp⟩
  | unreachable => exact ⟨[], none, rfl, List.forall_mem_nil _, by simp⟩
  | unsent => exact ⟨[], none, rfl, List.forall_mem_nil _, by simp⟩

/-- There is one pause after each answer without an address. -/
theorem Inquiry.pauses_eq : pauses acts = (List.range (unknowns acts)).map
    fun i => policy.backoff (n + i) := by
  induction h with
  | ask _ _ _ ih => exact ih
  | data _ hf _ _ ih =>
    rw [unknowns_data hf]
    exact ih
  | @unanswered n _ _ _ host acts _ _ _ ih =>
    have hpauses : pauses
        (.hear (.addressQueryReply none host) :: .pause (policy.backoff n) :: acts)
        = policy.backoff n :: pauses acts := rfl
    rw [unknowns_unanswered, hpauses, ih, List.range_succ_eq_map, List.map_cons,
      List.map_map]
    refine congrArg _ (List.map_congr_left fun i _ => ?_)
    rw [Nat.add_assoc, Nat.add_comm 1]
    rfl
  | decided _ hdecides =>
    rw [unknowns_decided hdecides]
    rfl
  | unread => rfl
  | unreachable => rfl
  | unsent => rfl

/-- The peer counts as unreachable after as many answers without an address as
there are attempts, and only then. -/
theorem Inquiry.unreachable_iff (hn : n + phase.open ≤ policy.attempts) :
    result = .error (.unreachable ("address of " ++ peer.render) policy.attempts
        ⟨.notFound, "peer never advertised"⟩) ↔
          n + unknowns acts = policy.attempts := by
  -- where the result is another one, there are attempts left
  induction h with
  | ask hlt _ _ ih => exact ih hlt
  | data _ hf _ _ ih =>
    rw [unknowns_data hf]
    exact ih hn
  -- one more answer without an address is one attempt less
  | unanswered _ _ ih =>
    rw [unknowns_unanswered, Nat.add_comm _ 1, ← Nat.add_assoc]
    exact ih hn
  | decided _ hdecides =>
    rw [unknowns_decided hdecides]
    refine iff_of_false ?_ (Nat.ne_of_lt hn)
    rintro rfl
    cases hdecides
  | @unread _ _ _ e _ =>
    refine iff_of_false (fun hresult => ?_) (Nat.ne_of_lt hn)
    rw [Fault.ofRead] at hresult
    split at hresult <;> cases hresult
  | unreachable heq => exact iff_of_true rfl heq
  | @unsent _ _ _ e hlt _ =>
    refine iff_of_false (fun hresult => ?_) (Nat.ne_of_lt hlt)
    cases e <;> cases hresult

end Course

/-- **To ask until there is an address.** Whatever comes from the coordinator,
an inquiry takes a course step by step, and what comes of the course is what
comes of the two loops. All data that is heard is taken in, once and in order,
and there is a pause of the policy for each answer without an address. There are
no more questions than the policy allows, and the peer is unreachable exactly if
as many answers without an address came. -/
theorem inquiry_settled (plan : Plan) (coordinator : HostAddress)
    (policy : RetryPolicy) (peer : FederateId) (d : Dialogue (Socket κ)) :
    let a := max 1 policy.maxAttempts.toNat
    (∃ acts result link,
      Inquiry plan coordinator policy peer .asking 0 d.link acts result link) ∧
    ∀ acts result link,
      Inquiry plan coordinator policy peer .asking 0 d.link acts result link →
      let data := Frame.relayed (heard acts)
      queryAddress plan coordinator policy peer d = (result, {
        link
        clock := d.clock.after data.length
        inbox := (inTurn plan.dispatchIncoming
          (Incoming.row .coordinator d.clock data) d.inbox).2
        pauses := d.pauses ++ policy.pausesOf (unknowns acts) }) ∧
      acts.count .ask ≤ a ∧ AsksAgain acts ∧
      Asks peer acts result d.link.wire link.wire ∧
      Hears acts result d.link.source link.source ∧
      Settles plan coordinator acts result ∧
      (result = .error (.unreachable ("address of " ++ peer.render) a
        ⟨.notFound, "peer never advertised"⟩) ↔ unknowns acts = a) := by
  intro a
  have ha : policy.attempts = a := max_comm _ _
  refine ⟨exists_inquiry plan coordinator policy peer d.link,
    fun acts result link h => ?_⟩
  have hstate : queryAddress plan coordinator policy peer d
      = (result, afterActs plan acts link d) :=
    proceed_of_inquiry h d rfl
  have hpauses : pauses acts = policy.pausesOf (unknowns acts) := by
    rw [h.pauses_eq]
    simp only [Nat.zero_add]
    rfl
  have hcount := h.count_ask_le (Nat.zero_le _)
  have hunreachable := h.unreachable_iff (Nat.zero_le _)
  rw [ha, Nat.zero_add] at hunreachable
  refine ⟨?_, ?_, ?_, h.asks, h.hears, h.settles, hunreachable⟩
  · rw [hstate, afterActs, hpauses]
  · rw [← ha]
    simpa [Phase.open] using hcount
  · intro before after hacts
    rcases h.before_ask hacts with ⟨-, hnil⟩ | hunknown
    · exact .inl hnil
    · exact .inr hunknown

/-- A dialogue in which the peer is unknown at first, with data in front of both
answers, and something else behind them. -/
def inquiring : Dialogue (Socket FrameStream) where
  link := { source := ⟨[.taggedMessage ⟨⟨1⟩, ⟨2⟩, ⟨.epoch, 8⟩, .empty⟩,
    .addressQueryReply none .unspecified,
    .portAbsent ⟨⟨1⟩, ⟨2⟩, ⟨.epoch, 9⟩⟩,
    .addressQueryReply (some 15045) .unspecified, .ack], .io .starved⟩ }
  clock := { readings := fun _ => .epoch }

/-- The second answer is the address. The data in front of it is taken in, and
what is behind it is left. -/
theorem inquiry_settled_of_inquiring :
    ∃ receiver, Plan.build ⟨2⟩ Plan.triangle .decentralized (fun _ => .zero)
      = .ok receiver ∧
      let (result, d) := queryAddress receiver .loopback {} ⟨1⟩ inquiring
      result = .ok ⟨.loopback, 15045⟩ ∧ d.link.source.frames = [.ack] ∧
        d.pauses = [.ofMillis 100] ∧
      d.inbox.scheduled = [⟨⟨1⟩, .empty, .epoch, some ⟨.epoch, 8⟩⟩] := by
  obtain ⟨receiver, hbuild⟩ : ∃ receiver,
      Plan.build ⟨2⟩ Plan.triangle .decentralized (fun _ => .zero)
        = .ok receiver := ⟨_, rfl⟩
  have haccepts (f : Frame)
      (htaken : (receiver.dispatch .coordinator .epoch f {}).1.isOk = true) :
      ∀ detail, ¬ receiver.Refuses f detail := Plan.not_refuses_of_isOk htaken
  -- data, no address, data again, and then the address
  obtain ⟨link, hcourse, hleft⟩ : ∃ link,
      Inquiry receiver .loopback {} ⟨1⟩ .asking 0 inquiring.link
        [.ask, .hear (.taggedMessage ⟨⟨1⟩, ⟨2⟩, ⟨.epoch, 8⟩, .empty⟩),
          .hear (.addressQueryReply none .unspecified),
          .pause (RetryPolicy.backoff {} 0),
          .ask, .hear (.portAbsent ⟨⟨1⟩, ⟨2⟩, ⟨.epoch, 9⟩⟩),
          .hear (.addressQueryReply (some 15045) .unspecified)]
        (.ok ⟨.loopback, 15045⟩) link ∧
        link.source.frames = [.ack] := by
    refine ⟨_, .ask (by decide) rfl (.data rfl rfl (haccepts _ ?_)
      (.unanswered rfl (.ask (by decide) rfl (.data rfl rfl (haccepts _ ?_)
        (.decided rfl (.found 15045 .unspecified)))))), rfl⟩
    · cases hbuild
      decide +kernel
    · cases hbuild
      decide +kernel
  obtain ⟨hstate, -⟩ :=
    (inquiry_settled receiver .loopback {} ⟨1⟩ inquiring).2 _ _ _ hcourse
  refine ⟨receiver, hbuild, ?_⟩
  rw [hstate]
  dsimp only
  refine ⟨rfl, hleft, by decide +kernel, ?_⟩
  cases hbuild
  decide +kernel

end Joining

end Federation
