/-
Federation/Link/Introduction.lean

How peers introduce themselves to one another.

Who opens a link tells its number and the id of its federation, and waits for
the consent of the other side. The other side consents if the id is its own and
the number is one that it expects and has not accepted yet; else it says why
not.
-/
import Federation.Link.Conversation

namespace Federation

/-- Whom a federate accepts: members of its federation that it expects. -/
structure Admission where
  federationId : String
  expected : Std.ExtTreeSet FederateId

namespace Admission

variable {σ : Type} [Link σ] (a : Admission)

/-- Why a peer is not accepted, given those that are registered. -/
def refusal? (registered : FederateId → Bool) (peer : FederateId)
    (federationId : String) : Option RejectReason :=
  if federationId ≠ a.federationId then some .federationIdMismatch
  else if peer ∉ a.expected then some .federateIdOutOfRange
  else if registered peer then some .federateIdInUse
  else none

/-- The conversation with one that opened a link. The result is the peer, if it
is accepted. -/
def hear (registered : FederateId → Bool) : Conversation σ FederateId := do
  match ← Conversation.receive "inbound peer" with
  | .joinPeer peer federationId =>
    match a.refusal? registered peer federationId with
    | some reason =>
      Conversation.trySend (.reject reason)
      throw (.rejected peer.render reason)
    | none =>
      Conversation.send "inbound peer" .ack
      return peer
  | f =>
    Conversation.trySend (.reject .unexpectedMessage)
    throw
      (.protocol "inbound peer" ("expected P2pSendingFedId, got " ++ f.kindName))

end Admission

/-- The conversation of a federate that opened a link to a peer. -/
def introduce {σ : Type} [Link σ] (federate : FederateId) (federationId : String)
    (peer : FederateId) :
    Conversation σ Unit := do
  Conversation.send peer.render (.joinPeer federate federationId)
  match ← Conversation.receive peer.render with
  | .ack => return
  | .reject reason => throw (.rejected peer.render reason)
  | f => throw (.protocol peer.render ("expected Ack, got " ++ f.kindName))

end Federation
