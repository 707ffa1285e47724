import TwoMlsPq.Apq.Laws
import TwoMlsPq.Session.Establishment

/-!
# The session as a transition system

The invariants of the session speak about its halves and about the slots that
tie them together, not about ledgers, windows or stores.  `Core` is that part
of the state, and `Step` says once what the session can ever do to it.  Every
operation is then shown to be a path of steps, and an invariant is proved one
step at a time.
-/

namespace TwoMlsPq
namespace Session

open Foundation Apq

structure Core (M : MlsRs) where
  half : Half -> Option M.Group
  client : TwoMlsPqPrincipal M
  staged : List (TwoMlsPqPrincipal M)
  auth : AuthCore
  theirId : Bytes
  staple : Option (Staple M)
  pending : Option (Bytes × Blob M)
  offered : Option (PeerProposal M)
  queued : Option (PeerProposal M)
  mark : Option Nat
  inflight : Option PqInflight
  sideBand : Option (SideBand M)
  owed : Option (OwedBind M)
  turn : Bool
  broken : Bool
  wedged : Option PqWedge
  bootstrapSecret : Option M.KeyPackageSecret
  bootstrapKp : Option (Blob M)
  commitment : Option Bytes
  sealTarget : Option (CombinerKeyPackage M)
  delegates : Bool
  envelope : Option Bytes
  outbound : Option (Outbound M)
  joined : Option Bytes

section

variable {M : MlsRs}

def SessionInner.core (s : SessionInner M) : Core M :=
  { half := s.half
    client := s.client
    staged := s.rotation.stagedCandidates
    auth := s.services.auth
    theirId := s.rotation.theirState.clientId
    staple := s.msg.currentStaple
    pending := s.msg.pendingProposalMessage
    offered := s.msg.offeredProposal
    queued := s.msg.queuedProposal
    mark := s.msg.peerAppliedSendEpoch
    inflight := s.round.pqInflight
    sideBand := s.round.pendingSideBand.map RetainedFrame.frame
    owed := s.round.owedBind
    turn := s.round.pqTurnMine
    broken := s.round.bindApplyBroken
    wedged := s.round.pqWedged
    bootstrapSecret := s.round.bootstrapKpSecret
    bootstrapKp := s.round.bootstrapKp
    commitment := s.round.expectedBootstrapKpCommitment
    sealTarget := s.establishment.initialTheirKp
    delegates := s.establishment.requiresEstablishmentEnvelope
    envelope := s.establishment.establishmentEnvelope
    outbound := s.msg.pendingOutbound
    joined := s.msg.joinedWelcomeDigest }

namespace Core

def setHalf (c : Core M) (h : Half) (g : M.Group) : Core M :=
  { c with half := Function.update c.half h (some g) }

def epoch (c : Core M) (h : Half) : Option Nat :=
  (c.half h).map M.currentEpoch

@[simp]
theorem half_setHalf (c : Core M) (h : Half) (g : M.Group) :
    (c.setHalf h g).half h = some g :=
  Function.update_self ..

theorem half_setHalf_of_ne {c : Core M} {h h' : Half} {g : M.Group}
    (hne : h' ≠ h) :
    (c.setHalf h g).half h' = c.half h' :=
  Function.update_of_ne hne ..

end Core

/-- A half that is held stays held and undisturbed, and a missing one stays
missing. -/
def HalfQuiet : Option M.Group -> Option M.Group -> Prop
  | some g, some g' => Undisturbed g g'
  | none, none => True
  | _, _ => False

/-- Only observations no invariant depends on have changed. -/
def Quiet (c c' : Core M) : Prop :=
  (forall h, HalfQuiet (c.half h) (c'.half h)) ∧
    c' = { c with half := c'.half }

/-!
## Events
-/

inductive TheirsCause where
  | fold
  | staple
  | welcome
deriving DecidableEq, Repr

inductive Event (M : MlsRs) where
  | quiet
  -- the groups
  | peerCommit (h : Half) (m : M.Message)
  | applyRekey (m : M.Message)
  | ownCommit (h : Half) (fold : Option (PeerProposal M))
      (identity : Option (M.Signer × Bytes))
  | propose (h : Half) (m : M.Message) (identity : Option (M.Signer × Bytes))
  | joinRecv (w : ApqWelcome M)
  | createSendPq (kp : Blob M)
  | joinRecvPq (w : Blob M)
  -- the message path
  | setStaple (staple : Staple M)
  | setPending (p : Option (Bytes × Blob M))
  | setOffered (o : Option (PeerProposal M))
  | setQueued (o : Option (PeerProposal M))
  | setMark (m : M.Message)
  | setOutbound (o : Option (Outbound M))
  -- credentials
  | enlist (candidate : TwoMlsPqPrincipal M)
  | authorizeTheirs (id : Bytes)
  | commitTheirs (cause : TheirsCause) (id : Bytes)
  | commitMine (id : Bytes)
  | install (winner : TwoMlsPqPrincipal M)
  | authMeta
  | setAdopting (b : Bool)
  -- rounds
  | openRound (i : PqInflight) (f : SideBand M)
  | registerBootstrap (kp : Blob M)
  | respond (secret ct : Bytes)
  | closeRound
  | parkLeg (f : SideBand M)
  | clearSideBand
  | setOwed (o : OwedBind M)
  | clearOwed
  | setTurn (b : Bool)
  | breakReceive
  | wedge (w : PqWedge)

def FreshStaple (c : Core M) (staple : Staple M) : Prop :=
  exists cl m g e,
    c.half .sendClassical = some g ∧ cl.parsed = some m ∧
      M.messageEpoch m = some e ∧ M.currentEpoch g = e + 1 ∧
      (M.description m).contentType = some .commit ∧
      (staple = .commit cl ∨ exists pq, staple = .bind cl pq)

/-- Why a classical commit may be made: the folded proposal was accepted at the
current epoch, or the peer is known to have reached it. -/
def Licensed (c : Core M) (g : M.Group) (fold : Option (PeerProposal M)) : Prop :=
  match fold with
  | some p =>
      exists m, p.proposal.parsed = some m ∧
        M.messageEpoch m = some (M.currentEpoch g)
  | none => exists mark, c.mark = some mark ∧ M.currentEpoch g <= mark

/-- The identity a commit of ours moves its own leaf to: none, or the session's
current one. -/
def HandsOff (client : ClientIdentity M.Signer)
    (identity : Option (M.Signer × Bytes)) : Prop :=
  identity = none ∨ identity = some (client.signer, client.identifier)

/-- The identity an update of ours introduces: a candidate's or our own in the
peer's classical half, our own in its post-quantum half. -/
def Introduces (c : Core M) (h : Half) (identity : Option (M.Signer × Bytes)) :
    Prop :=
  match h with
  | .recvClassical =>
      identity = none ∨ exists candidate,
        (candidate ∈ c.staged ∨ candidate = c.client) ∧
          identity = some (candidate.classicalSigner, candidate.clientId)
  | .recvPq => HandsOff c.client.pq identity
  | _ => False

/-- A proposal the send half accepts at its current epoch. -/
def AcceptedNow (c : Core M) (m : M.Message) : Prop :=
  exists g, c.half .sendClassical = some g ∧
    M.messageEpoch m = some (M.currentEpoch g) ∧
    (M.description m).contentType = some .proposal

/-- A group fresh from a welcome: it signs with the joining client's key, and
its own leaf is the one of a key package at hand. -/
structure Joined (client : ClientIdentity M.Signer)
    (kps : List M.KeyPackageSecret) (m : M.Message) (g : M.Group) : Prop where
  epoch : M.currentEpoch g = M.welcomeEpoch m
  signer : M.groupSigner g = client.signer
  updates : M.pendingUpdates g = []
  own : exists kp, kp ∈ kps ∧ ownLeaf g = some (M.keyPackageLeaf kp)

structure Created (client : ClientIdentity M.Signer) (g : M.Group) : Prop where
  epoch : M.currentEpoch g = 1
  updates : M.pendingUpdates g = []
  signer : M.groupSigner g = client.signer
  own : ownLeaf g = some (.basic client.identifier, M.publicKey client.signer)

def StagedUpdate (c : Core M) (b : Blob M) : Prop :=
  exists m g,
    b.parsed = some m ∧ c.half .recvClassical = some g ∧
      M.messageEpoch m = some (M.currentEpoch g) ∧
      (M.description m).contentType = some .proposal

def InCustody (c : Core M) (id : Bytes) : Prop :=
  id = c.client.clientId ∨ exists candidate, candidate ∈ c.staged ∧
    candidate.clientId = id

def OffersUpdate (c : Core M) (proposing : Bytes) (b : Blob M) : Prop :=
  exists m g identity,
    b.parsed = some m ∧ c.half .recvClassical = some g ∧
      (m, identity) ∈ M.pendingUpdates g ∧ InCustody c proposing

/-- No update of ours is pending in the recv classical half. -/
def Settled (c : Core M) : Prop :=
  forall g, c.half .recvClassical = some g -> M.pendingUpdates g = []

def Repeats (c : Core M) : Outbound M -> Prop
  | .envelope e =>
      e.stapled = none ∧ forall w, e.welcome = some w ->
        c.staple = some (.welcome w)
  | .staple st => c.staple = some st

/-- The frame a round opens with.  The frame of an A.5 round is an update
pending in the recv half, and only the answer to a committed bootstrap key
package opens a round without that half. -/
structure Opened (c : Core M) (i : PqInflight) (f : SideBand M) : Prop where
  proposed : i = .rekeyInitiated ->
    exists m g identity,
      f.body.parsed = some m ∧ c.half .recvPq = some g ∧
        (m, identity) ∈ M.pendingUpdates g
  live : c.half .recvPq ≠ none ∨ c.commitment ≠ none
  round : i ≠ .bootstrapInitiated
  kind : f.kind ≠ .bootstrapKeyPackage

/-- The key package a bootstrap round is registered around: the pre-committed
one, or what an idle session without a recv half has parked. -/
def Registers (c : Core M) (kp : Blob M) : Prop :=
  c.bootstrapKp ≠ none ∧
    (c.bootstrapKp = some kp ∨
      c.sealTarget ≠ none ∧ c.inflight = none ∧
        exists f, c.sideBand = some f ∧ f.body = kp)

def LiveLeg (i : Option PqInflight) (kind : PqFrameKind) : Prop :=
  (exists eph, i = some (.initiating eph) ∧ kind = .ratchetEphemeralKey) ∨
    exists secret ct,
      i = some (.responding secret ct) ∧ kind = .ratchetCiphertext

def SameSequences (a a' : AuthCore) : Prop :=
  a'.adopting = a.adopting ∧ a'.mine.history = a.mine.history ∧
    a'.mine.authorizedNext = a.mine.authorizedNext ∧
    a'.theirs.history = a.theirs.history ∧
    a'.theirs.authorizedNext = a.theirs.authorizedNext

inductive Step : Event M -> Core M -> Core M -> Prop
  | quiet {c c' : Core M} (h : Quiet c c') : Step .quiet c c'
  | peerCommit {c : Core M} {h : Half} {m : M.Message} {g g' : M.Group}
      (held : c.half h = some g)
      (idle : h = .recvPq -> c.inflight = none)
      (kind : (M.description m).contentType = some .commit)
      (applied : PeerCommit m g g') :
      Step (.peerCommit h m) c (c.setHalf h g')
  | applyRekey {c : Core M} {m : M.Message} {g g' : M.Group}
      (held : c.half .recvPq = some g)
      (initiated : c.inflight = some .rekeyInitiated)
      (applied : PeerCommit m g g') :
      Step (.applyRekey m) c (c.setHalf .recvPq g')
  | ownCommit {c : Core M} {fold : Option (PeerProposal M)}
      {identity : Option (M.Signer × Bytes)} {g g' : M.Group}
      (held : c.half .sendClassical = some g)
      (discharged : c.owed = none)
      (licensed : Licensed c g fold)
      (handoff : HandsOff c.client.classical identity)
      (applied : OwnCommit identity g g') :
      Step (.ownCommit .sendClassical fold identity) c
        (c.setHalf .sendClassical g')
  | ownCommitPq {c : Core M} {identity : Option (M.Signer × Bytes)}
      {g g' : M.Group}
      (held : c.half .sendPq = some g)
      (discharged : c.owed = none)
      (handoff : HandsOff c.client.pq identity)
      (applied : OwnCommit identity g g') :
      Step (.ownCommit .sendPq none identity) c (c.setHalf .sendPq g')
  | propose {c : Core M} {h : Half} {m : M.Message}
      {identity : Option (M.Signer × Bytes)} {g g' : M.Group}
      (held : c.half h = some g)
      (introduces : Introduces c h identity)
      (proposed : Proposed m identity g g') :
      Step (.propose h m identity) c (c.setHalf h g')
  | joinRecv {c : Core M} {w : ApqWelcome M} {m : M.Message} {g : M.Group}
      {pq : Option M.Group}
      (missing : c.half .recvClassical = none)
      (missingPq : c.half .recvPq = none)
      (parsed : w.classical.parsed = some m)
      (joined : Joined c.client.classical c.client.classicalKpStore m g)
      (joinedPq : forall g', pq = some g' ->
        exists m', Joined c.client.pq c.client.pqKpStore m' g')
      {welcome : WelcomeBytes M} (decoded : welcome.decoded = some w) :
      Step (.joinRecv w) c
        { c with
          half :=
            Function.update (Function.update c.half Half.recvClassical (some g))
              Half.recvPq pq
          sealTarget := none
          joined := some (M.sha256 welcome.bytes) }
  | createSendPq {c : Core M} {kp : Blob M} {g : M.Group}
      (missing : c.half .sendPq = none)
      (created : Created c.client.pq g) :
      Step (.createSendPq kp) c (c.setHalf .sendPq g)
  | joinRecvPq {c : Core M} {w : Blob M} {m : M.Message} {g : M.Group}
      (missing : c.half .recvPq = none)
      (live : c.half .recvClassical ≠ none)
      (initiated : c.inflight = some .bootstrapInitiated)
      (parsed : w.parsed = some m)
      (joined :
        Joined c.client.pq (c.bootstrapSecret.toList ++ c.client.pqKpStore) m g) :
      Step (.joinRecvPq w) c
        { c.setHalf .recvPq g with bootstrapSecret := none }
  | setStaple {c : Core M} {staple : Staple M} (fresh : FreshStaple c staple) :
      Step (.setStaple staple) c { c with staple := some staple }
  | envelopStaple {c : Core M} {envelope : Bytes} {w : WelcomeBytes M}
      (bare : c.staple = some (.welcome w))
      (missing : c.envelope = none) :
      Step (.setStaple (.handoff envelope w)) c
        { c with
          staple := some (.handoff envelope w)
          envelope := some envelope
          outbound := c.outbound.map fun _ => .staple (.handoff envelope w) }
  | clearPending {c : Core M} :
      Step (.setPending none) c { c with pending := none }
  | setPending {c : Core M} {proposing : Bytes} {b : Blob M}
      (staged : StagedUpdate c b)
      (offers : OffersUpdate c proposing b) :
      Step (.setPending (some (proposing, b))) c
        { c with pending := some (proposing, b) }
  | setOffered {c : Core M} {o : Option (PeerProposal M)} :
      Step (.setOffered o) c { c with offered := o }
  | dequeue {c : Core M} : Step (.setQueued none) c { c with queued := none }
  | setQueued {c : Core M} {p : PeerProposal M} {m : M.Message}
      (parsed : p.proposal.parsed = some m)
      (accepted : AcceptedNow c m) :
      Step (.setQueued (some p)) c { c with queued := some p }
  | setMark {c : Core M} {m : M.Message} {g : M.Group}
      (held : c.half .sendClassical = some g)
      (epoch : M.messageEpoch m = some (M.currentEpoch g))
      (kind : (M.description m).contentType = some .proposal) :
      Step (.setMark m) c { c with mark := some (M.currentEpoch g) }
  | clearOutbound {c : Core M} :
      Step (.setOutbound none) c { c with outbound := none }
  | setOutbound {c : Core M} {o : Outbound M} (repeats : Repeats c o)
      (sealing : c.sealTarget ≠ none) :
      Step (.setOutbound (some o)) c { c with outbound := some o }
  | enlist {c : Core M} {candidate : TwoMlsPqPrincipal M}
      (room : c.staged.length < candidateWindow)
      (fresh : candidate.classicalKpStore = [] ∧ candidate.pqKpStore = [])
      (unlisted : forall p, p ∈ c.staged -> p.clientId ≠ candidate.clientId) :
      Step (.enlist candidate) c
        { c with
          auth := { c.auth with mine := c.auth.mine.authorize candidate.clientId }
          staged := c.staged ++ [candidate] }
  | authorizeTheirs {c : Core M} {id : Bytes} :
      Step (.authorizeTheirs id) c
        { c with auth := { c.auth with theirs := c.auth.theirs.authorize id } }
  | commitTheirs {c : Core M} {cause : TheirsCause} {id : Bytes} :
      Step (.commitTheirs cause id) c
        { c with
          auth := { c.auth with theirs := c.auth.theirs.commit id }
          theirId := id }
  | commitMine {c : Core M} {id : Bytes} (own : id = c.client.clientId) :
      Step (.commitMine id) c
        { c with auth := { c.auth with mine := c.auth.mine.commit id } }
  | install {c : Core M} {winner : TwoMlsPqPrincipal M}
      (staged : winner ∈ c.staged)
      (settled : Settled c) :
      Step (.install winner) c
        { c with
          auth := { c.auth with mine := c.auth.mine.commit winner.clientId }
          staged := []
          client := winner }
  | authMeta {c : Core M} {a : AuthCore} (same : SameSequences c.auth a) :
      Step .authMeta c { c with auth := a }
  | setAdopting {c : Core M} {b : Bool} :
      Step (.setAdopting b) c { c with auth := { c.auth with adopting := b } }
  | openRound {c : Core M} {i : PqInflight} {f : SideBand M}
      (opened : Opened c i f) :
      Step (.openRound i f) c { c with inflight := some i, sideBand := some f }
  | registerBootstrap {c : Core M} {kp : Blob M} (registers : Registers c kp) :
      Step (.registerBootstrap kp) c
        { c with
          inflight := some .bootstrapInitiated
          sideBand := some { kind := .bootstrapKeyPackage, body := kp }
          bootstrapKp := none }
  | respond {c : Core M} {secret ct : Bytes} (idle : c.inflight = none)
      (live : c.half .recvPq ≠ none) :
      Step (.respond secret ct) c
        { c with inflight := some (.responding secret (some ct)) }
  | closeRound {c : Core M} : Step .closeRound c { c with inflight := none }
  | parkLeg {c : Core M} {f : SideBand M} (live : LiveLeg c.inflight f.kind) :
      Step (.parkLeg f) c { c with sideBand := some f }
  | clearSideBand {c : Core M} :
      Step .clearSideBand c { c with sideBand := none }
  | setOwed {c : Core M} {o : OwedBind M} {g gpq : M.Group}
      (held : c.half .sendClassical = some g)
      (heldPq : c.half .sendPq = some gpq)
      (tEpoch : o.tEpoch = M.currentEpoch g + 1)
      (pqEpoch : o.pqEpoch = M.currentEpoch gpq) :
      Step (.setOwed o) c { c with owed := some o }
  | clearOwed {c : Core M} : Step .clearOwed c { c with owed := none }
  | setTurn {c : Core M} {b : Bool} : Step (.setTurn b) c { c with turn := b }
  | breakReceive {c : Core M} : Step .breakReceive c { c with broken := true }
  | wedge {c : Core M} {w : PqWedge} :
      Step (.wedge w) c { c with wedged := some w }

def Path (A : Event M -> Prop) : Core M -> Core M -> Prop :=
  Relation.ReflTransGen fun c c' => exists e, A e ∧ Step e c c'

namespace Path

variable {A : Event M -> Prop} {c c' c'' : Core M}

theorem refl : Path A c c :=
  Relation.ReflTransGen.refl

theorem trans (h : Path A c c') (h' : Path A c' c'') : Path A c c'' :=
  Relation.ReflTransGen.trans h h'

theorem single {e : Event M} (allowed : A e) (h : Step e c c') : Path A c c' :=
  Relation.ReflTransGen.single ⟨e, allowed, h⟩

theorem mono {B : Event M -> Prop}
    (hAB : forall e, A e -> B e) (h : Path A c c') :
    Path B c c' :=
  Relation.ReflTransGen.mono
    (fun _ _ hstep => Exists.imp (fun _ he => ⟨hAB _ he.1, he.2⟩) hstep) _ _ h

theorem invariant {I : Core M -> Prop}
    (hstep : forall e c c', A e -> Step e c c' -> I c -> I c')
    (h : Path A c c') (hI : I c) :
    I c' := by
  induction h with
  | refl => exact hI
  | tail _ hlast ih =>
      rcases hlast with ⟨e, hA, he⟩
      exact hstep e _ _ hA he ih

end Path

end

end Session
end TwoMlsPq
