import TwoMlsPq.Session.BlobFields
import TwoMlsPq.Session.SealCache

/-!
# Facts that last a whole life

The wrappers around the bodies only count, encode and push.  A fact about the
session and what its sink was given is carried through every call when the bodies
keep it, when counting makes it ripe for a push, and when a push of a ripe session
gives it again.  A fact about the record alone lasts a whole life when, beside this,
what is opened from a blob has it again.
-/

namespace TwoMlsPq
namespace Session

open Foundation Apq

section

variable {M : MlsRs} {α β : Type}

/-!
## Bodies
-/

def HandedIn (s s' : SessionInner M) : Prop :=
  s' = s ∨ s' = { s with stateSeq := s.stateSeq + 1 }

theorem handedIn_started (t : TwoMlsPqSession M) : HandedIn t.inner (started t) := by
  unfold started
  split
  · exact Or.inr rfl
  · exact Or.inl rfl

def Warded (I : SessionInner M -> Prop) (guard : SessionOp M β) (admitted : β -> Prop)
    (body : β -> SessionOp M α) : Prop :=
  forall b s s', (guard.run s).1 = .ok b -> admitted b -> HandedIn s s' -> I s' ->
    I ((body b).run s').2

def initialFieldBody (apply : EstablishmentState M -> EstablishmentState M)
    (seed : M.Seed) : SessionOp M Unit := do
  let s <- Op.state
  Op.ensure (s.recvGroup.isNone ∧ s.establishment.initialTheirKp.isSome)
    .sessionNotReady
  Op.update fun s => s.mapEstablishment apply
  let envelope <- composeInitialEnvelope none seed
  Op.update fun s => s.mapMsg fun m =>
    { m with
      pendingOutbound := some (.envelope envelope)
      currentStapleSeq := s.stateSeq }

def clearOutbound (s : SessionInner M) : SessionInner M :=
  s.mapMsg fun m => { m with pendingOutbound := none }

/-- What runs with the counter as it stands keeps the fact. -/
structure Unbumped (I : SessionInner M -> Prop) : Prop where
  encodes : forall kind, Op.Keeps I (encodeBlob kind)
  taken : forall s, I s -> I (clearOutbound s)
  takenSideBand : forall s, I s -> I (clearSideBand s)
  handsOut : forall stable, Op.Keeps I (handOut stable)
  listens : Op.Keeps I recordListenRendezvous
  listensPq : Op.Keeps I recordPqHeaderKey
  receives : forall frame approval, Op.Keeps I (processIncomingInner frame approval)

/-- Everything that runs under the lock keeps the fact. -/
structure Bodies (I : SessionInner M -> Prop) : Prop extends Unbumped I where
  installs : forall envelope, Op.Keeps I (installEnvelopeInner envelope)
  attaches : forall payload seed,
    Op.Keeps I (initialFieldBody (fun e => { e with initialAppPayload := some payload })
      seed)
  attachesKp : forall kp seed,
    Op.Keeps I (initialFieldBody (fun e => { e with initialReturnKp := some kp }) seed)
  prepares : forall proposing rnd, Op.Keeps I (prepareToEncryptInner proposing rnd)
  encrypts : forall appMessage rnd, Op.Keeps I (encryptInner appMessage rnd)
  queues : forall digest, Op.Keeps I (queueProposalInner digest)
  exportsSend : Op.Keeps I sendAttachmentComponent
  exportsRecv : forall epoch, Op.Keeps I (recvAttachmentComponent epoch)
  respondsRatchet : forall frame rnd,
    Warded I (ratchetRespondGuard frame) (fun _ => True) fun leg =>
      ratchetRespondInner leg rnd
  bindsRatchet : forall frame seed,
    Warded I (ratchetBindGuard frame) (fun _ => True) fun opened =>
      ratchetBindInner opened.1 opened.2 seed
  respondsRekey : forall frame seed,
    Warded I (rekeyRespondGuard frame) (fun _ => True) fun proposal =>
      rekeyRespondInner proposal seed
  appliesRekey : forall frame seed,
    Warded I (rekeyApplyGuard frame) (fun _ => True) fun commit =>
      rekeyApplyInner commit seed
  begins : forall rotating,
    Warded I (bootstrapBeginGuard rotating) (fun retained => retained = none) fun _ =>
      bootstrapBeginInner
  envelopes : forall seed,
    Warded I (bootstrapEnvelopeGuard seed) (fun retained => retained = none) fun _ =>
      bootstrapEnvelopeInner seed
  respondsBootstrap : forall frame rnd,
    Warded I (bootstrapRespondGuard frame) (fun _ => True) fun kp =>
      bootstrapRespondInner kp rnd
  bindsBootstrap : forall frame seed,
    Warded I (bootstrapBindGuard frame) (fun _ => True) fun welcome =>
      bootstrapBindInner welcome seed

/-- What a session becomes behind one body: it keeps every fact that the bodies
keep. -/
def Moved (s s' : SessionInner M) : Prop :=
  forall I : SessionInner M -> Prop, Bodies I -> I s -> I s'

theorem Bodies.moved {I : SessionInner M -> Prop} (h : Bodies I) {s s' : SessionInner M}
    (hmoved : Moved s s') (hs : I s) : I s' :=
  hmoved I h hs

theorem Bodies.ofMoved {J : SessionInner M -> Prop}
    (h : forall s s', Moved s s' -> J s -> J s') : Bodies J := by
  have hkeeps : forall {γ : Type} {x : SessionOp M γ},
      (forall I : SessionInner M -> Prop, Bodies I -> Op.Keeps I x) -> Op.Keeps J x :=
    fun hx s hs => h s _ (fun I hI hIs => hx I hI s hIs) hs
  have hguarded : forall {γ δ : Type} {guard : SessionOp M δ} {admitted : δ -> Prop}
      {body : δ -> SessionOp M γ},
      (forall I : SessionInner M -> Prop, Bodies I -> Warded I guard admitted body) ->
        Warded J guard admitted body :=
    fun hbody b s s' hrun hadm hin hs =>
      h s' _ (fun I hI hIs => hbody I hI b s s' hrun hadm hin hIs) hs
  exact
    { encodes := fun kind => hkeeps fun _ hI => hI.encodes kind
      taken := fun s hs => h s _ (fun _ hI hIs => hI.taken s hIs) hs
      takenSideBand := fun s hs => h s _ (fun _ hI hIs => hI.takenSideBand s hIs) hs
      handsOut := fun stable => hkeeps fun _ hI => hI.handsOut stable
      listens := hkeeps fun _ hI => hI.listens
      listensPq := hkeeps fun _ hI => hI.listensPq
      installs := fun envelope => hkeeps fun _ hI => hI.installs envelope
      attaches := fun payload seed => hkeeps fun _ hI => hI.attaches payload seed
      attachesKp := fun kp seed => hkeeps fun _ hI => hI.attachesKp kp seed
      prepares := fun proposing rnd => hkeeps fun _ hI => hI.prepares proposing rnd
      encrypts := fun appMessage rnd => hkeeps fun _ hI => hI.encrypts appMessage rnd
      receives := fun frame approval => hkeeps fun _ hI => hI.receives frame approval
      queues := fun digest => hkeeps fun _ hI => hI.queues digest
      exportsSend := hkeeps fun _ hI => hI.exportsSend
      exportsRecv := fun epoch => hkeeps fun _ hI => hI.exportsRecv epoch
      respondsRatchet := fun frame rnd =>
        hguarded fun _ hI => hI.respondsRatchet frame rnd
      bindsRatchet := fun frame seed => hguarded fun _ hI => hI.bindsRatchet frame seed
      respondsRekey := fun frame seed => hguarded fun _ hI => hI.respondsRekey frame seed
      appliesRekey := fun frame seed => hguarded fun _ hI => hI.appliesRekey frame seed
      begins := fun rotating => hguarded fun _ hI => hI.begins rotating
      envelopes := fun seed => hguarded fun _ hI => hI.envelopes seed
      respondsBootstrap := fun frame rnd =>
        hguarded fun _ hI => hI.respondsBootstrap frame rnd
      bindsBootstrap := fun frame seed =>
        hguarded fun _ hI => hI.bindsBootstrap frame seed }

theorem Bodies.beside {I : SessionInner M -> Prop} (h : Bodies I) (Q : Prop) :
    Bodies fun s => I s ∧ Q :=
  Bodies.ofMoved fun _ _ hmoved hs => ⟨h.moved hmoved hs.1, hs.2⟩

theorem Warded.ofKeeps {I : SessionInner M -> Prop} {guard : SessionOp M β}
    {admitted : β -> Prop} {body : β -> SessionOp M α}
    (hbody : forall b, Op.Keeps I (body b)) : Warded I guard admitted body :=
  fun b _ s' _ _ _ hs => hbody b s' hs

/-!
## One call

`K` is a fact about the session and the blobs pushed so far, and `F` is that fact
where the counter stands above every blob: a Core is pushed in such a state only.
-/

structure Carries (K F : SessionInner M -> List (Push M) -> Prop) : Prop where
  unbumped : forall pushed, Unbumped fun s => K s pushed
  bodiesRipe : forall pushed, Bodies fun s => F s pushed
  counts : forall s pushed, K s pushed -> s.stateSeq < maxSeq ->
    F { s with stateSeq := s.stateSeq + 1 } pushed
  exhausts : forall s pushed, K s pushed -> ¬ s.stateSeq < maxSeq -> F s pushed
  unripe : forall s pushed, F s pushed -> K s pushed
  pushes : forall kind s s' a pushed, F s pushed ->
    (encodeBlob kind).run s = (.ok a, s') ->
      K s' (pushed ++ [{ seq := s'.stateSeq, kind := kind, archive := a }])
  checkpoints : forall s s' a pushed, K s pushed ->
    (encodeBlob .checkpoint).run s = (.ok a, s') ->
      K s' (pushed ++ [{ seq := s'.stateSeq, kind := .checkpoint, archive := a }])

section

variable {K F : SessionInner M -> List (Push M) -> Prop}

def Carried (K : SessionInner M -> List (Push M) -> Prop) (t : TwoMlsPqSession M) : Prop :=
  K t.inner t.pushed

theorem carried_locked {x : SessionOp M α}
    (hx : forall pushed, Op.Keeps (fun s => K s pushed) x) :
    Op.Keeps (Carried K) (locked x) :=
  fun t h => hx t.pushed t.inner h

theorem carried_handing {x : ApiOp M α} {frames : α -> List (Frame M)}
    (hx : Op.Keeps (Carried K) x) : Op.Keeps (Carried K) (handing x frames) := by
  intro t h
  rw [handing_run]
  exact hx t h

theorem carried_encodeAndPush {E : SessionInner M -> List (Push M) -> Prop}
    {kind : BlobKind} (hencodes : forall pushed, Op.Keeps (fun s => E s pushed)
      (encodeBlob kind))
    (hsettles : forall s pushed, E s pushed -> K s pushed)
    (hpushes : forall s s' a pushed, E s pushed ->
      (encodeBlob kind).run s = (.ok a, s') ->
        K s' (pushed ++ [{ seq := s'.stateSeq, kind := kind, archive := a }]))
    {t : TwoMlsPqSession M} (h : Carried E t) :
    Carried K ((encodeAndPush (M := M) kind).run t).2 := by
  have hkept := hencodes t.pushed t.inner h
  have hpushed := hpushes t.inner
  unfold Session.encodeAndPush
  rw [Op.run_bind, Op.run_state]
  dsimp only
  split
  · rw [Op.run_bind]
    unfold locked
    rw [Op.run_ofResult]
    rcases hrun : (encodeBlob kind).run t.inner with ⟨r, s'⟩
    rw [hrun] at hkept hpushed
    cases r with
    | error e => exact hsettles _ _ hkept
    | ok a => exact hpushed s' a t.pushed h rfl
  · exact hsettles _ _ h

namespace Carries

variable (C : Carries K F)
include C

theorem ripens (t : TwoMlsPqSession M) (h : Carried K t) :
    Carried F (bumpSeq.run t).2 := by
  by_cases hseq : t.inner.stateSeq < maxSeq
  · rw [run_bumpSeq_lt hseq]
    exact C.counts t.inner t.pushed h hseq
  · rw [run_bumpSeq_exhausted hseq]
    exact C.exhausts t.inner t.pushed h hseq

theorem pushRipe (kind : BlobKind) {t : TwoMlsPqSession M} (h : Carried F t) :
    Carried K ((encodeAndPush (M := M) kind).run t).2 :=
  carried_encodeAndPush (fun pushed => (C.bodiesRipe pushed).encodes kind) C.unripe
    (C.pushes kind) h

theorem persistAfter (kind : BlobKind) :
    Op.Keeps (Carried K) (persistAfter (M := M) kind) := by
  intro t h
  have hripe := C.ripens t h
  unfold Session.persistAfter
  rw [Op.run_bind]
  rcases hrun : bumpSeq.run t with ⟨r, t'⟩
  rw [hrun] at hripe
  cases r with
  | error e => exact C.unripe _ _ hripe
  | ok counted =>
      dsimp only
      split
      · rw [Op.run_bind, Op.run_attempt]
        exact C.pushRipe kind hripe
      · exact C.unripe _ _ hripe

theorem persistHandOut : Op.Keeps (Carried K) (persistHandOut (M := M)) := by
  intro t h
  have hripe := C.ripens t h
  unfold Session.persistHandOut
  rw [Op.run_bind]
  rcases hrun : bumpSeq.run t with ⟨r, t'⟩
  rw [hrun] at hripe
  cases r with
  | error e => exact C.unripe _ _ hripe
  | ok counted =>
      dsimp only
      rw [Op.run_bind, Op.run_attempt]
      exact C.pushRipe .core hripe

theorem startsRipe {t : TwoMlsPqSession M} (h : Carried K t) :
    F (started t) t.pushed := by
  unfold started
  split
  next hseq => exact C.counts t.inner t.pushed h hseq
  next hseq => exact C.exhausts t.inner t.pushed h hseq

theorem encoded {kind : BlobKind} {x : SessionOp M α} {t : TwoMlsPqSession M}
    (hx : F (x.run (started t)).2 t.pushed) :
    Carried K ((mutateAndPersist kind x).run t).2 := by
  unfold started at hx
  by_cases hseq : t.inner.stateSeq < maxSeq
  · rw [if_pos hseq] at hx
    rw [run_mutateAndPersist_state hseq]
    exact C.pushRipe kind (t := mutated x t) hx
  · rw [if_neg hseq] at hx
    rw [run_mutateAndPersist_exhausted hseq]
    exact C.unripe _ _ hx

theorem persisted {kind : BlobKind} {x : SessionOp M α}
    (hx : forall pushed, Op.Keeps (fun s => F s pushed) x) :
    Op.Keeps (Carried K) (mutateAndPersist kind x) :=
  fun t h => C.encoded (hx t.pushed _ (C.startsRipe h))

theorem guarded {kind : BlobKind} {guard : SessionOp M β} {body : β -> SessionOp M α}
    (hguard : Op.Still guard)
    (hbody : forall pushed, Warded (fun s => F s pushed) guard (fun _ => True) body) :
    Op.Keeps (Carried K) (do
      let b <- locked guard
      mutateAndPersist kind (body b) : ApiOp M α) := by
  intro t h
  have hlocked := run_locked_still hguard t
  cases hrun : (guard.run t.inner).1 with
  | error e =>
      rw [hrun] at hlocked
      rw [Op.run_bind_error hlocked]
      exact h
  | ok b =>
      rw [hrun] at hlocked
      rw [Op.run_bind_ok hlocked]
      exact C.encoded (hbody t.pushed b t.inner _ hrun True.intro (handedIn_started t)
        (C.startsRipe h))

theorem retaining {kind : BlobKind} {guard : SessionOp M (Option α)}
    {body : SessionOp M α} {next : Option α -> ApiOp M α} (hguard : Op.Still guard)
    (hbody : forall pushed, Warded (fun s => F s pushed) guard
      (fun retained => retained = none) fun _ => body)
    (hretained : forall frame, next (some frame) = pure frame)
    (hnone : next none = mutateAndPersist kind body) :
    Op.Keeps (Carried K) (locked guard >>= next) := by
  intro t h
  have hlocked := run_locked_still hguard t
  cases hrun : (guard.run t.inner).1 with
  | error e =>
      rw [hrun] at hlocked
      rw [Op.run_bind_error hlocked]
      exact h
  | ok retained =>
      rw [hrun] at hlocked
      rw [Op.run_bind_ok hlocked]
      cases retained with
      | some frame =>
          rw [hretained]
          exact h
      | none =>
          rw [hnone]
          exact C.encoded (hbody t.pushed none t.inner _ hrun rfl (handedIn_started t)
            (C.startsRipe h))

theorem installSink : Op.Keeps (Carried K) (Session.installSink (M := M)) := by
  unfold Session.installSink
  refine Op.Keeps.looking Op.Still.state fun t => ?_
  refine Op.Keeps.looking (Op.Still.ensure _ _) fun _ => ?_
  refine Op.Keeps.bind (Op.Keeps.update fun t h => h) fun _ => ?_
  intro t h
  exact carried_encodeAndPush (fun pushed => (C.unbumped pushed).encodes .checkpoint)
    (fun _ _ hs => hs) C.checkpoints h

theorem pendingOutbound : Op.Keeps (Carried K) (Session.pendingOutbound (M := M)) := by
  unfold Session.pendingOutbound
  refine Op.Keeps.looking
    (Op.Still.attempt (still_locked still_ensureEstablishmentDelegated)) fun _ => ?_
  refine Op.Keeps.looking Op.Still.state fun t => ?_
  split
  · refine Op.Keeps.bind (Op.Keeps.update fun t h => ?_) fun _ => ?_
    · exact (C.unbumped t.pushed).taken t.inner h
    refine Op.Keeps.looking ?_ fun out => ?_
    · apply Op.Still.ite
      · exact Op.Still.bind (Op.Still.attempt (still_locked still_sealFrame)) fun _ =>
          Op.Still.value _
      · exact Op.Still.value _
    · exact Op.Keeps.bind C.persistHandOut fun _ => Op.Keeps.value _
  · exact Op.Keeps.value _

theorem pqTakePendingOutbound :
    Op.Keeps (Carried K) (Session.pqTakePendingOutbound (M := M)) := by
  unfold Session.pqTakePendingOutbound
  refine Op.Keeps.looking
    (Op.Still.attempt (still_locked still_ensureEstablishmentDelegated)) fun _ => ?_
  refine Op.Keeps.looking Op.Still.state fun t => ?_
  split
  · refine Op.Keeps.bind (Op.Keeps.update fun t h => ?_) fun _ => ?_
    · exact (C.unbumped t.pushed).takenSideBand t.inner h
    refine Op.Keeps.looking (Op.Still.attempt (still_locked (still_sealSideBand _)))
      fun _ => ?_
    exact Op.Keeps.bind C.persistHandOut fun _ => Op.Keeps.value _
  · exact Op.Keeps.value _

theorem pqPendingOutbound (stable : Bool) :
    Op.Keeps (Carried K) (Session.pqPendingOutbound (M := M) stable) := by
  unfold Session.pqPendingOutbound
  refine Op.Keeps.looking
    (Op.Still.attempt (still_locked still_ensureEstablishmentDelegated)) fun _ => ?_
  apply Op.Keeps.ite
  · exact carried_locked fun pushed => (C.unbumped pushed).handsOut stable
  · exact Op.Keeps.value _

theorem installEstablishmentEnvelope (envelope : Bytes) :
    Op.Keeps (Carried K) (Session.installEstablishmentEnvelope (M := M) envelope) := by
  unfold Session.installEstablishmentEnvelope
  refine Op.Keeps.looking (Op.Still.ensure _ _) fun _ => ?_
  refine Op.Keeps.looking Op.Still.state fun t => ?_
  split
  · exact Op.Keeps.still (Op.Still.ensure _ _)
  · exact C.persisted fun pushed => (C.bodiesRipe pushed).installs envelope

theorem encrypt (appMessage : Bytes) (rnd : Nat -> M.Seed) :
    Op.Keeps (Carried K) (Session.encrypt appMessage rnd) := by
  unfold Session.encrypt
  refine Op.Keeps.bind
    (C.persisted fun pushed => (C.bodiesRipe pushed).encrypts appMessage rnd)
    fun result => ?_
  refine Op.Keeps.bind ?_ fun _ => Op.Keeps.value _
  apply Op.Keeps.ite
  · exact C.persistAfter .checkpoint
  · exact Op.Keeps.value _

theorem processIncomingWith (frame : Frame M) (approval : Option EstablishmentApproval) :
    Op.Keeps (Carried K) (Session.processIncomingWith frame approval) := by
  rw [processIncomingWith_eq]
  refine Op.Keeps.looking Op.Still.state fun before => ?_
  refine Op.Keeps.bind
    (carried_locked fun pushed => (C.unbumped pushed).receives frame approval)
    fun result => ?_
  refine Op.Keeps.looking Op.Still.state fun after => ?_
  refine Op.Keeps.bind ?_ fun _ => Op.Keeps.value _
  apply Op.Keeps.ite
  · exact Op.Keeps.value _
  · exact C.persistAfter _

theorem queueProposal (digest : Bytes) :
    Op.Keeps (Carried K) (Session.queueProposal (M := M) digest) := by
  unfold Session.queueProposal
  refine Op.Keeps.looking Op.Still.state fun t => ?_
  refine Op.Keeps.looking (Op.Still.ensure _ _) fun _ => ?_
  exact C.persisted fun pushed => (C.bodiesRipe pushed).queues digest

theorem shouldListenOn : Op.Keeps (Carried K) (Session.shouldListenOn (M := M)) := by
  unfold Session.shouldListenOn
  refine Op.Keeps.bind (carried_locked fun pushed => (C.unbumped pushed).listens)
    fun _ => ?_
  refine Op.Keeps.bind (carried_locked fun pushed => (C.unbumped pushed).listensPq)
    fun _ => ?_
  refine Op.Keeps.looking Op.Still.state fun t => ?_
  exact Op.Keeps.looking (Op.Still.ensure _ _) fun _ => Op.Keeps.value _

theorem call (call : Call M) : Op.Keeps (Carried K) call.run := by
  unfold Call.run
  cases call with
  | installSink => exact carried_handing C.installSink
  | pendingOutbound => exact carried_handing C.pendingOutbound
  | installEstablishmentEnvelope envelope =>
      exact carried_handing (C.installEstablishmentEnvelope envelope)
  | setInitialAppPayload payload seed =>
      exact carried_handing
        (C.persisted fun pushed => (C.bodiesRipe pushed).attaches payload seed)
  | setInitialReturnKeyPackage kp seed =>
      exact carried_handing
        (C.persisted fun pushed => (C.bodiesRipe pushed).attachesKp kp seed)
  | prepareToEncrypt proposing rnd =>
      exact carried_handing
        (C.persisted fun pushed => (C.bodiesRipe pushed).prepares proposing rnd)
  | encrypt appMessage rnd => exact carried_handing (C.encrypt appMessage rnd)
  | processIncoming frame approval =>
      exact carried_handing (C.processIncomingWith frame approval)
  | queueProposal digest => exact carried_handing (C.queueProposal digest)
  | exportAttachmentCekSend keyId =>
      refine carried_handing (Op.Keeps.bind ?_ fun _ => Op.Keeps.still (Op.Still.ofExcept _))
      exact C.persisted fun pushed => (C.bodiesRipe pushed).exportsSend
  | exportAttachmentCekRecv keyId epoch =>
      refine carried_handing (Op.Keeps.bind ?_ fun _ => Op.Keeps.still (Op.Still.ofExcept _))
      exact C.persisted fun pushed => (C.bodiesRipe pushed).exportsRecv epoch
  | shouldListenOn => exact carried_handing C.shouldListenOn
  | pqPendingOutbound stable => exact carried_handing (C.pqPendingOutbound stable)
  | pqTakePendingOutbound => exact carried_handing C.pqTakePendingOutbound
  | pqRatchetRespond frame rnd =>
      exact carried_handing (C.guarded (still_ratchetRespondGuard frame)
        fun pushed => (C.bodiesRipe pushed).respondsRatchet frame rnd)
  | pqRatchetBind frame seed =>
      exact carried_handing (C.guarded (still_ratchetBindGuard frame)
        fun pushed => (C.bodiesRipe pushed).bindsRatchet frame seed)
  | pqRekeyRespond frame seed =>
      exact carried_handing (C.guarded (still_rekeyRespondGuard frame)
        fun pushed => (C.bodiesRipe pushed).respondsRekey frame seed)
  | pqRekeyApply frame seed =>
      exact carried_handing (C.guarded (still_rekeyApplyGuard frame)
        fun pushed => (C.bodiesRipe pushed).appliesRekey frame seed)
  | pqBootstrapBegin rotating =>
      exact carried_handing (C.retaining (still_bootstrapBeginGuard rotating)
        (fun pushed => (C.bodiesRipe pushed).begins rotating) (fun _ => rfl) rfl)
  | pqBootstrapEnvelope seed =>
      exact carried_handing (C.retaining (still_bootstrapEnvelopeGuard seed)
        (fun pushed => (C.bodiesRipe pushed).envelopes seed) (fun _ => rfl) rfl)
  | pqBootstrapRespond frame rnd =>
      exact carried_handing (C.guarded (still_bootstrapRespondGuard frame)
        fun pushed => (C.bodiesRipe pushed).respondsBootstrap frame rnd)
  | pqBootstrapBind frame seed =>
      exact carried_handing (C.guarded (still_bootstrapBindGuard frame)
        fun pushed => (C.bodiesRipe pushed).bindsBootstrap frame seed)

theorem live
    (hrestart : forall t : TwoMlsPqSession M, Carried K t -> Carried K t.restarted)
    (hreopen : forall t : TwoMlsPqSession M, Carried K t -> Carried K t.reopened)
    {t : TwoMlsPqSession M} (a : LifeAction M) (h : Carried K t) :
    Carried K (t.live a) := by
  cases a with
  | reopen => exact hreopen t h
  | host a =>
      cases a with
      | call call => exact C.call call t h
      | restart => exact hrestart t h

end Carries

end

/-!
## Facts about the record
-/

def Conserved (I : SessionInner M -> Prop) (P : Push M -> Prop) (s : SessionInner M)
    (pushed : List (Push M)) : Prop :=
  I s ∧ forall p, p ∈ pushed -> P p

/-- A fact that lasts, and what it says of blobs. -/
structure Lasting (I : SessionInner M -> Prop) (P : Push M -> Prop) : Prop extends
    Bodies I where
  counted : forall s, I s -> I { s with stateSeq := s.stateSeq + 1 }
  pictured : forall kind s s' a, I s -> (encodeBlob kind).run s = (.ok a, s') ->
    P { seq := s'.stateSeq, kind := kind, archive := a }
  restores : forall pushed s, (forall p, p ∈ pushed -> P p) -> restore pushed = .ok s ->
    I s
  reopens : forall s s' a r, I s -> (encodeBlob .checkpoint).run s = (.ok a, s') ->
    sessionFromWire a = .ok r -> I r

namespace Lasting

variable {I : SessionInner M -> Prop} {P : Push M -> Prop} (L : Lasting I P)
include L

theorem carries : Carries (Conserved I P) (Conserved I P) := by
  have hpush : forall kind s s' a pushed, Conserved I P s pushed ->
      (encodeBlob kind).run s = (.ok a, s') ->
        Conserved I P s' (pushed ++ [{ seq := s'.stateSeq, kind := kind, archive := a }]) := by
    intro kind s s' a pushed h hrun
    have hkept := L.encodes kind s h.1
    rw [hrun] at hkept
    refine ⟨hkept, fun p hp => ?_⟩
    rcases List.mem_append.mp hp with hold | hnew
    · exact h.2 p hold
    · rw [List.mem_singleton.mp hnew]
      exact L.pictured kind s s' a h.1 hrun
  exact
    { unbumped := fun pushed => (L.toBodies.beside _).toUnbumped
      bodiesRipe := fun pushed => L.toBodies.beside _
      counts := fun s pushed h _ => ⟨L.counted s h.1, h.2⟩
      exhausts := fun _ _ h _ => h
      unripe := fun _ _ h => h
      pushes := hpush
      checkpoints := hpush .checkpoint }

theorem restarted {t : TwoMlsPqSession M} (h : Carried (Conserved I P) t) :
    Carried (Conserved I P) t.restarted := by
  unfold TwoMlsPqSession.restarted
  cases hrestore : restore t.pushed with
  | error e => exact h
  | ok s => exact ⟨L.restores t.pushed s h.2 hrestore, h.2⟩

theorem reopened {t : TwoMlsPqSession M} (h : Carried (Conserved I P) t) :
    Carried (Conserved I P) t.reopened := by
  have hencoded := L.encodes .checkpoint t.inner h.1
  have hreopens := L.reopens t.inner
  unfold TwoMlsPqSession.reopened
  rcases hrun : (encodeBlob .checkpoint).run t.inner with ⟨r, s⟩
  rw [hrun] at hencoded hreopens
  cases r with
  | error e => exact ⟨hencoded, h.2⟩
  | ok a =>
      dsimp only
      cases hopened : sessionFromWire a with
      | error e => exact ⟨hencoded, h.2⟩
      | ok s' => exact ⟨hreopens s a s' h.1 rfl hopened, h.2⟩

theorem kept {admits : TwoMlsPqSession M -> LifeAction M -> Prop} {s : SessionInner M}
    {t : TwoMlsPqSession M} (born : I s)
    (h : Run TwoMlsPqSession.live admits (TwoMlsPqSession.fresh s) t) :
    Carried (Conserved I P) t :=
  h.invariant
    (fun _ a hkept _ => L.carries.live (fun _ => L.restarted) (fun _ => L.reopened) a hkept)
    ⟨born, fun _ hp => absurd hp List.not_mem_nil⟩

/-- A fact that lasts holds at every moment of every life it held at the start of. -/
theorem life {admits : TwoMlsPqSession M -> LifeAction M -> Prop} {s : SessionInner M}
    {t : TwoMlsPqSession M} (born : I s)
    (h : Run TwoMlsPqSession.live admits (TwoMlsPqSession.fresh s) t) : I t.inner :=
  (L.kept born h).1

end Lasting

theorem Bodies.lasting {I : SessionInner M -> Prop} (lawful : Lawful M) (h : Bodies I)
    (hcounted : forall s, I s -> I { s with stateSeq := s.stateSeq + 1 })
    (hreborn : forall s₀ s, I s₀ -> Reborn s₀ s -> I s) : Lasting I (Photo I) where
  toBodies := h
  counted := hcounted
  pictured := by
    intro kind s s' a hs hrun
    have hkept := h.encodes kind s hs
    rw [hrun] at hkept
    exact ⟨s', hkept, rfl, encodeBlob_pictures hrun, encodeBlob_archived lawful hrun⟩
  restores := by
    intro pushed s hphotos hrestore
    rcases restore_reborn lawful hphotos hrestore with ⟨_, s₀, _, hI, _, hborn⟩
    exact hreborn s₀ s hI hborn
  reopens := by
    intro s s' a r hs hrun hopened
    have hkept := h.encodes .checkpoint s hs
    rw [hrun] at hkept
    exact hreborn s' r hkept (opened_reborn lawful (encodeBlob_pictures hrun)
      (encodeBlob_archived lawful hrun) hopened)

end

end Session
end TwoMlsPq
