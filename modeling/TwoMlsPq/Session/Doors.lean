import TwoMlsPq.Session.Restore
import TwoMlsPq.Session.RoundPath

/-!
# The public operations as paths

A host drives a session through its public operations.  `Call` lists them with
their arguments, `Call.run` performs one and returns the frames it hands out,
and `Call.events` says which events it is made of.  Every call takes the
session along a path of these events, also when it fails, and every blob it
pushes pictures a core on that path.
-/

namespace TwoMlsPq
namespace Session

open Foundation Apq

section

variable {M : MlsRs} {α β : Type}

/-!
## Operations on the session object
-/

/-- The session moved along allowed events, and what it pushed on the way
pictures cores on such paths. -/
def Advances (A : Event M -> Prop) (t t' : TwoMlsPqSession M) : Prop :=
  Goes A t.inner t'.inner ∧
    exists new, t'.pushed = t.pushed ++ new ∧
      Pictured (fun _ c => Path A t.inner.core c) new

def Door (A : Event M -> Prop) (p : Core M -> Prop) (x : ApiOp M α)
    (q : α -> Core M -> Prop) : Prop :=
  Op.Moves (Advances A) (fun t => p t.inner.core) x (fun a t => q a t.inner.core)

theorem Pictured.append {P : BlobKind -> Core M -> Prop} {xs ys : List (Push M)}
    (hx : Pictured P xs) (hy : Pictured P ys) :
    Pictured P (xs ++ ys) := by
  intro push hmem
  rcases List.mem_append.mp hmem with hmem | hmem
  · exact hx push hmem
  · exact hy push hmem

theorem Pictured.mono {P Q : BlobKind -> Core M -> Prop} {pushed : List (Push M)}
    (h : Pictured P pushed) (hPQ : forall kind c, P kind c -> Q kind c) :
    Pictured Q pushed := by
  intro push hmem
  rcases h push hmem with ⟨c, hc, harchived⟩
  exact ⟨c, hPQ _ c hc, harchived⟩

theorem Pictured.nil {P : BlobKind -> Core M -> Prop} :
    Pictured P ([] : List (Push M)) := by
  intro push hmem
  cases hmem

theorem Advances.silent {A : Event M -> Prop} {t t' : TwoMlsPqSession M}
    (hgoes : Goes A t.inner t'.inner) (hpushed : t'.pushed = t.pushed) :
    Advances A t t' :=
  ⟨hgoes, [], by rw [hpushed, List.append_nil], Pictured.nil⟩

instance (A : Event M -> Prop) :
    IsTrans (TwoMlsPqSession M) (Advances A) where
  trans := by
    rintro t t' t'' ⟨hgoes, new, hpushed, hnew⟩ ⟨hgoes', new', hpushed', hnew'⟩
    refine ⟨Path.trans hgoes hgoes', new ++ new', ?_, ?_⟩
    · rw [hpushed', hpushed, List.append_assoc]
    · exact hnew.append (hnew'.mono fun _ _ hc => Path.trans hgoes hc)

instance (A : Event M -> Prop) : Std.Refl (Advances (M := M) A) where
  refl _ := Advances.silent Path.refl rfl

namespace Door

variable {A : Event M -> Prop} {p : Core M -> Prop} {x : ApiOp M α}
variable {q : α -> Core M -> Prop}

theorem advances (h : Door A p x q) {t : TwoMlsPqSession M} (ht : p t.inner.core) :
    Advances A t (x.run t).2 :=
  (h t ht).1

theorem result (h : Door A p x q) {t : TwoMlsPqSession M} (ht : p t.inner.core)
    {a : α} (hrun : (x.run t).1 = .ok a) :
    q a (x.run t).2.inner.core :=
  (h t ht).2 a hrun

theorem bind {f : α -> ApiOp M β} {r : β -> Core M -> Prop}
    (hx : Door A p x q) (hf : forall a, Door A (q a) (f a) r) :
    Door A p (x >>= f) r :=
  Op.Moves.bind hx hf

theorem post {q' : α -> Core M -> Prop} (hx : Door A p x q)
    (hpost : forall a c, q a c -> q' a c) :
    Door A p x q' :=
  Op.Moves.post hx fun a t => hpost a t.inner.core

theorem pre {p' : Core M -> Prop} (hx : Door A p x q)
    (hpre : forall c, p' c -> p c) :
    Door A p' x q :=
  Op.Moves.pre hx fun t => hpre t.inner.core

theorem value (a : α) (h : forall c, p c -> q a c) :
    Door A p (Pure.pure a : ApiOp M α) q :=
  (Op.Moves.value a).post fun _ t ht => by
    rw [ht.1]
    exact h t.inner.core ht.2

theorem ite {P : Prop} [Decidable P] {y : ApiOp M α}
    (hx : Door A p x q) (hy : Door A p y q) :
    Door A p (if P then x else y) q := by
  split
  · exact hx
  · exact hy

theorem fail (e : TwoMlsPqError) : Door A p (Op.fail e : ApiOp M α) q :=
  Op.Moves.fail e

theorem attempt (hx : Door A p x q) :
    Door A p (Op.attempt x) (fun r c => forall a, r = .ok a -> q a c) :=
  Op.Moves.attempt hx

theorem assume {P : Prop} (h : P -> Door A p x q) :
    Door A (fun c => P ∧ p c) x q :=
  fun t ht => h ht.1 t ht.2

theorem outside (hx : forall t, (x.run t).2.inner.core = t.inner.core)
    (hpushed : forall t, (x.run t).2.pushed = t.pushed) :
    Door A p x (fun _ c => p c) := by
  intro t ht
  have hgoes : Goes A t.inner (x.run t).2.inner := by
    unfold Goes
    rw [hx t]
    exact Path.refl
  refine ⟨Advances.silent hgoes (hpushed t), ?_⟩
  intro a _
  change p (x.run t).2.inner.core
  rw [hx t]
  exact ht

theorem state :
    Door A p (Op.state : ApiOp M (TwoMlsPqSession M))
      (fun t c => t.inner.core = c ∧ p c) := by
  intro t ht
  refine ⟨Advances.silent Path.refl rfl, ?_⟩
  intro t' ht'
  cases ht'
  exact ⟨rfl, ht⟩

theorem ensure (P : Prop) [Decidable P] (e : TwoMlsPqError) :
    Door A p (Op.ensure P e : ApiOp M Unit) (fun _ c => P ∧ p c) :=
  Op.Moves.ensure P e

theorem locked {y : SessionOp M α} (hy : Via A p y q) :
    Door A p (Session.locked y) q :=
  fun t ht => ⟨Advances.silent (hy t.inner ht).1 rfl, (hy t.inner ht).2⟩

end Door

/-!
## Persisting
-/

section

variable (L : Lawful M)

include L

variable {A : Event M -> Prop} {p : Core M -> Prop}

omit L in
theorem door_bumpSeq : Door A p (bumpSeq (M := M)) (fun _ c => p c) := by
  unfold bumpSeq
  refine Door.bind Door.state fun t => ?_
  split
  · refine Door.bind (q := fun _ c => p c) ?_ fun _ => ?_
    · exact (Door.outside (p := p) (fun _ => rfl) fun _ => rfl).pre fun _ hc => hc.2
    exact Door.value _ fun _ hc => hc
  · exact Door.value _ fun _ hc => hc.2

omit L in
theorem door_push (kind : BlobKind) (archive : Archive M) :
    Door A (fun c => Archived kind c archive ∧ p c)
      (Op.update (push kind archive) : ApiOp M Unit) (fun _ c => p c) := by
  intro t ht
  refine ⟨⟨Path.refl, [_], rfl, ?_⟩, fun _ _ => ht.2⟩
  intro p hp
  cases hp with
  | head => exact ⟨t.inner.core, Path.refl, ht.1⟩
  | tail _ hp => cases hp

theorem door_encodeAndPush_keeps (hquiet : A .quiet) (hp : Stable p)
    (kind : BlobKind) :
    Door A p (encodeAndPush (M := M) kind) (fun _ c => p c) := by
  unfold encodeAndPush
  refine Door.bind Door.state fun t => ?_
  split
  · refine Door.pre (p := p) ?_ fun _ hc => hc.2
    refine Door.bind (Door.locked (via_encodeBlob L hquiet hp kind)) fun archive => ?_
    exact door_push kind archive
  · exact Door.value _ fun _ hc => hc.2

theorem door_encodeAndPush (hquiet : A .quiet) (kind : BlobKind) :
    Door A p (encodeAndPush (M := M) kind) (fun _ _ => True) :=
  (door_encodeAndPush_keeps L hquiet (Stable.const True) kind).pre
    fun _ _ => True.intro

theorem door_mutateAndPersist_keeps {kind : BlobKind} {x : SessionOp M α}
    {q : α -> Core M -> Prop} (hquiet : A .quiet) (hq : forall a, Stable (q a))
    (hx : Via A p x q) :
    Door A p (mutateAndPersist kind x) q := by
  unfold mutateAndPersist
  refine Door.bind door_bumpSeq fun bumped => ?_
  split
  · refine Door.bind (Door.locked hx).attempt fun result => ?_
    cases result with
    | error e =>
        refine Door.bind (door_encodeAndPush L hquiet kind).attempt fun encoded => ?_
        exact Door.fail _
    | ok a =>
        refine Door.pre (p := q a) ?_ fun c hc => hc a rfl
        refine Door.bind (door_encodeAndPush_keeps L hquiet (hq a) kind).attempt
          fun encoded => ?_
        cases encoded with
        | error e => exact Door.fail _
        | ok _ => exact Door.value _ fun _ hc => hc _ rfl
  · exact Door.locked hx

theorem door_mutateAndPersist {kind : BlobKind} {x : SessionOp M α}
    {q : α -> Core M -> Prop} (hquiet : A .quiet) (hx : Via A p x q) :
    Door A p (mutateAndPersist kind x) (fun a _ => exists c, q a c) :=
  door_mutateAndPersist_keeps L hquiet (fun _ => Stable.const _)
    (hx.post fun _ c hc => ⟨c, hc⟩)

theorem door_persistAfter (hquiet : A .quiet) (kind : BlobKind) :
    Door A p (persistAfter (M := M) kind) (fun _ _ => True) := by
  unfold persistAfter
  refine Door.bind door_bumpSeq fun bumped => ?_
  split
  · refine Door.bind (door_encodeAndPush L hquiet kind).attempt fun _ => ?_
    exact Door.value _ fun _ _ => True.intro
  · exact Door.value _ fun _ _ => True.intro

theorem door_persistHandOut (hquiet : A .quiet) :
    Door A p (persistHandOut (M := M)) (fun _ _ => True) := by
  unfold persistHandOut
  refine Door.bind door_bumpSeq fun _ => ?_
  refine Door.bind (door_encodeAndPush L hquiet .core).attempt fun _ => ?_
  exact Door.value _ fun _ _ => True.intro

end

end

/-!
## Calls
-/

/-- A public operation with its arguments.  Randomness is an argument too. -/
inductive Call (M : MlsRs) where
  | installSink
  | pendingOutbound
  | installEstablishmentEnvelope (envelope : Bytes)
  | setInitialAppPayload (payload : Bytes) (seed : M.Seed)
  | setInitialReturnKeyPackage (kp : Blob M) (seed : M.Seed)
  | prepareToEncrypt (proposing : Option Bytes) (rnd : Nat -> M.Seed)
  | encrypt (appMessage : Bytes) (rnd : Nat -> M.Seed)
  | processIncoming (frame : Frame M) (approval : Option EstablishmentApproval)
  | queueProposal (digest : Bytes)
  | exportAttachmentCekSend (keyId : Bytes)
  | exportAttachmentCekRecv (keyId : Bytes) (epoch : Nat)
  | shouldListenOn
  | pqPendingOutbound (stable : Bool)
  | pqTakePendingOutbound
  | pqRatchetRespond (frame : Frame M) (rnd : Nat -> M.Seed)
  | pqRatchetBind (frame : Frame M) (seed : M.Seed)
  | pqRekeyRespond (frame : Frame M) (seed : M.Seed)
  | pqRekeyApply (frame : Frame M) (seed : M.Seed)
  | pqBootstrapBegin (rotating : Option Bytes)
  | pqBootstrapEnvelope (seed : M.Seed)
  | pqBootstrapRespond (frame : Frame M) (rnd : Nat -> M.Seed)
  | pqBootstrapBind (frame : Frame M) (seed : M.Seed)

section

variable {M : MlsRs} {α : Type}

def InitialEnvelope.frames (e : InitialEnvelope M) : List (Frame M) :=
  (e.welcome.map Frame.welcome).toList ++
    (e.stapled.map Frame.preEstablishment).toList

def Staple.frames : Staple M -> List (Frame M)
  | .welcome w => [.welcome w]
  | .handoff envelope w => [.handoff envelope w]
  | _ => []

def Outbound.frames : Outbound M -> List (Frame M)
  | .envelope e => e.frames
  | .staple st => st.frames

def Outgoing.frames : Outgoing M -> List (Frame M)
  | .frame f => [f]
  | .envelope e => e.frames

def handing (x : ApiOp M α) (frames : α -> List (Frame M)) :
    ApiOp M (List (Frame M)) := do
  let a <- x
  pure (frames a)

def Call.run : Call M -> ApiOp M (List (Frame M))
  | .installSink => handing Session.installSink fun _ => []
  | .pendingOutbound =>
      handing Session.pendingOutbound fun out => (out.map Outbound.frames).getD []
  | .installEstablishmentEnvelope envelope =>
      handing (Session.installEstablishmentEnvelope envelope) fun _ => []
  | .setInitialAppPayload payload seed =>
      handing (Session.setInitialAppPayload payload seed) fun _ => []
  | .setInitialReturnKeyPackage kp seed =>
      handing (Session.setInitialReturnKeyPackage kp seed) fun _ => []
  | .prepareToEncrypt proposing rnd =>
      handing (Session.prepareToEncrypt proposing rnd) fun _ => []
  | .encrypt appMessage rnd =>
      handing (Session.encrypt appMessage rnd) fun r => r.cipherText.frames
  | .processIncoming frame approval =>
      handing (processIncomingWith frame approval) fun _ => []
  | .queueProposal digest => handing (Session.queueProposal digest) fun _ => []
  | .exportAttachmentCekSend keyId =>
      handing (Session.exportAttachmentCekSend keyId) fun _ => []
  | .exportAttachmentCekRecv keyId epoch =>
      handing (Session.exportAttachmentCekRecv keyId epoch) fun _ => []
  | .shouldListenOn => handing Session.shouldListenOn fun _ => []
  | .pqPendingOutbound stable =>
      handing (Session.pqPendingOutbound stable) fun f =>
        (f.map Frame.sideBand).toList
  | .pqTakePendingOutbound =>
      handing Session.pqTakePendingOutbound fun f => (f.map Frame.sideBand).toList
  | .pqRatchetRespond frame rnd =>
      handing (Session.pqRatchetRespond frame rnd) fun _ => []
  | .pqRatchetBind frame seed =>
      handing (Session.pqRatchetBind frame seed) fun _ => []
  | .pqRekeyRespond frame seed =>
      handing (Session.pqRekeyRespond frame seed) fun _ => []
  | .pqRekeyApply frame seed =>
      handing (Session.pqRekeyApply frame seed) fun _ => []
  | .pqBootstrapBegin rotating =>
      handing (Session.pqBootstrapBegin rotating) fun f => [.sideBand f]
  | .pqBootstrapEnvelope seed =>
      handing (Session.pqBootstrapEnvelope seed) fun f => [.sideBand f]
  | .pqBootstrapRespond frame rnd =>
      handing (Session.pqBootstrapRespond frame rnd) fun _ => []
  | .pqBootstrapBind frame seed =>
      handing (Session.pqBootstrapBind frame seed) fun _ => []

def Call.delivered : Call M -> Option (Frame M)
  | .processIncoming frame _ => some frame
  | .pqRatchetRespond frame _ => some frame
  | .pqRatchetBind frame _ => some frame
  | .pqRekeyRespond frame _ => some frame
  | .pqRekeyApply frame _ => some frame
  | .pqBootstrapRespond frame _ => some frame
  | .pqBootstrapBind frame _ => some frame
  | _ => none

def quietEvents : Event M -> Prop
  | .quiet => True
  | _ => False

def envelopeEvents : Event M -> Prop
  | .quiet => True
  | .setStaple staple => exists envelope w, staple = .handoff envelope w
  | _ => False

def outboundEvents : Event M -> Prop
  | .quiet => True
  | .setOutbound _ => True
  | _ => False

def takeEvents : Event M -> Prop
  | .quiet => True
  | .clearSideBand => True
  | _ => False

/-- What a call may do, given the core it starts from. -/
def Call.events (c : Core M) : Call M -> Event M -> Prop
  | .pendingOutbound => outboundEvents
  | .installEstablishmentEnvelope _ => envelopeEvents
  | .setInitialAppPayload _ _ => outboundEvents
  | .setInitialReturnKeyPackage _ _ => outboundEvents
  | .prepareToEncrypt _ _ => prepareEvents c.queued
  | .encrypt _ _ => encryptEvents
  | .processIncoming frame _ => receiveEvents frame
  | .queueProposal _ => queueEvents c.offered
  | .pqTakePendingOutbound => takeEvents
  | .pqRatchetRespond _ _ => ratchetRespondEvents
  | .pqRatchetBind _ _ => bindEvents
  | .pqRekeyRespond _ _ => rekeyRespondEvents
  | .pqRekeyApply _ _ => rekeyApplyEvents
  | .pqBootstrapBegin _ => bootstrapOpenEvents
  | .pqBootstrapEnvelope _ => bootstrapOpenEvents
  | .pqBootstrapRespond _ _ => bootstrapRespondEvents
  | .pqBootstrapBind _ _ => bootstrapBindEvents
  | _ => quietEvents

/-!
## Every call is a path of its events
-/

section

variable (L : Lawful M) {p : Core M -> Prop}

include L

theorem door_quiet {kind : BlobKind} {x : SessionOp M α} (hx : QuietOp x) :
    Door quietEvents p (mutateAndPersist kind x) (fun _ _ => True) := by
  refine Door.pre (p := fun _ => True) ?_ fun _ _ => True.intro
  refine (door_mutateAndPersist L (A := quietEvents) True.intro
    (Via.quiet True.intro (Stable.const True) hx)).post ?_
  exact fun _ _ _ => True.intro

theorem door_expanding {kind : BlobKind} {x : SessionOp M Bytes} (keyId : Bytes)
    (hx : QuietOp x) :
    Door quietEvents p
      (do
        let component <- mutateAndPersist kind x
        Op.ofExcept (attachmentCek M component keyId))
      (fun _ _ => True) := by
  refine Door.bind (door_quiet L hx) fun component => ?_
  exact (Door.outside (fun _ => rfl) fun _ => rfl).post fun _ _ _ => True.intro

theorem door_installSink :
    Door quietEvents p (installSink (M := M)) (fun _ _ => True) := by
  unfold installSink
  refine Door.bind Door.state fun t => ?_
  refine Door.bind (Door.ensure _ _) fun _ => ?_
  refine Door.bind (Door.outside (fun _ => rfl) fun _ => rfl) fun _ => ?_
  exact door_encodeAndPush L True.intro _

omit L in
theorem door_gate {A : Event M -> Prop} :
    Door A p (Op.attempt (locked (ensureEstablishmentDelegated (M := M))))
      (fun _ c => p c) := by
  refine Door.outside (fun t => ?_) fun _ => rfl
  exact congrArg SessionInner.core (still_ensureEstablishmentDelegated t.inner)

theorem door_pendingOutbound {parked : Option (Outbound M)} :
    Door outboundEvents (fun c => c.outbound = parked) (pendingOutbound (M := M))
      (fun out _ => forall frame, out = some frame -> parked = some frame) := by
  unfold pendingOutbound
  refine Door.bind door_gate fun delegated => ?_
  refine Door.bind Door.state fun t => ?_
  split
  next frame hframe =>
    refine Door.pre (p := fun _ => parked = some frame ∧ True) ?_ ?_
    · refine Door.assume fun hparked => ?_
      refine Door.bind (q := fun _ _ => True) ?_ fun _ => ?_
      · exact fun t _ => ⟨Advances.silent
          (Path.single (e := .setOutbound none) True.intro Step.clearOutbound) rfl,
          fun _ _ => True.intro⟩
      refine Door.bind (q := fun out _ => forall f, out = some f -> f = frame) ?_
        fun out => ?_
      · split
        · refine Door.bind (Door.locked (Via.quiet True.intro (Stable.const True)
            quiet_sealFrame)).attempt fun sealed => ?_
          refine Door.value _ fun _ _ f hf => ?_
          split at hf
          · exact (Option.some.inj hf).symm
          · cases hf
        · exact Door.value _ fun _ _ f hf => (Option.some.inj hf).symm
      refine Door.pre (p := fun _ => (forall f, out = some f -> f = frame) ∧ True) ?_
        fun _ hc => ⟨hc, True.intro⟩
      refine Door.assume fun hout => ?_
      refine Door.bind (door_persistHandOut L True.intro) fun _ => ?_
      refine Door.value _ fun _ _ f hf => ?_
      rw [hout f hf]
      exact hparked
    · rintro c ⟨rfl, hparked⟩
      exact ⟨hparked.symm.trans hframe, True.intro⟩
  · refine Door.value _ fun _ _ f hf => ?_
    cases hf

omit L in
theorem via_installEnvelopeInner {envelope : Bytes} :
    Via envelopeEvents p (installEnvelopeInner (M := M) envelope)
      (fun _ _ => True) := by
  unfold installEnvelopeInner
  refine Via.bind Via.state fun s => ?_
  refine Via.looking (Op.Still.ensure _ _) fun _ => ?_
  split
  · exact (Via.ensure _ _).post fun _ _ _ => True.intro
  next hmissing =>
    refine Via.bind (Via.ofOption _ _) fun w => ?_
    refine Via.assume fun hwelcome => ?_
    have hbare := staple_of_stapledWelcome hwelcome
    refine Via.update fun s' hs => ⟨?_, True.intro⟩
    have hnone : s.core.envelope = none := hmissing
    rw [hs.1] at hbare hnone
    have hallowed : envelopeEvents (M := M) (.setStaple (.handoff envelope w)) :=
      ⟨envelope, w, rfl⟩
    exact Path.single hallowed (Step.envelopStaple hbare hnone)

theorem door_installEstablishmentEnvelope {envelope : Bytes} :
    Door envelopeEvents p (installEstablishmentEnvelope (M := M) envelope)
      (fun _ _ => True) := by
  unfold installEstablishmentEnvelope
  refine Door.bind (Door.ensure _ _) fun _ => ?_
  refine Door.bind Door.state fun t => ?_
  split
  · exact (Door.ensure _ _).post fun _ _ _ => True.intro
  · exact (door_mutateAndPersist L True.intro via_installEnvelopeInner).post
      fun _ _ _ => True.intro

theorem door_setInitialField {apply : EstablishmentState M -> EstablishmentState M}
    {seed : M.Seed}
    (happly : forall s : SessionInner M, (s.mapEstablishment apply).core = s.core) :
    Door outboundEvents p (setInitialField apply seed) (fun _ _ => True) := by
  refine (door_mutateAndPersist (q := fun _ _ => True) L True.intro ?_).post
    fun _ _ _ => True.intro
  refine Via.looking Op.Still.state fun s => ?_
  refine Via.looking (Op.Still.ensure _ _) fun _ => ?_
  refine Via.pre (p := fun _ => True) ?_ fun _ _ => True.intro
  refine Via.quietly True.intro (Stable.const True) (QuietOp.update happly)
    fun _ => ?_
  refine Via.bind via_composeInitialEnvelope fun envelope => ?_
  exact Via.step (e := .setOutbound (some (.envelope envelope))) True.intro
    fun s hs => ⟨Step.setOutbound ⟨hs.1, hs.2.1⟩ hs.2.2.1, True.intro⟩

theorem door_prepareToEncrypt {proposing : Option Bytes} {rnd : Nat -> M.Seed}
    {queued : Option (PeerProposal M)} (happroved : ApprovedProposal queued) :
    Door (prepareEvents queued) (fun c => c.queued = queued)
      (prepareToEncrypt proposing rnd) (fun _ _ => True) :=
  (door_mutateAndPersist L True.intro (via_prepareToEncryptInner L happroved)).post
    fun _ _ _ => True.intro

theorem door_encrypt {appMessage : Bytes} {rnd : Nat -> M.Seed}
    {staple : Option (Staple M)} {pending : Option (Bytes × Blob M)} :
    Door encryptEvents (fun c => c.staple = staple ∧ c.pending = pending)
      (encrypt appMessage rnd)
      (fun r _ => ComposedOf staple pending r.cipherText) := by
  unfold encrypt
  refine Door.bind (door_mutateAndPersist L (A := encryptEvents) True.intro
    (via_encryptInner L)) fun result => ?_
  refine Door.pre (p := fun _ => ComposedOf staple pending result.cipherText ∧ True)
    ?_ ?_
  · refine Door.assume fun hcomposed => ?_
    refine Door.bind (q := fun _ _ => True) ?_ fun _ => ?_
    · split
      · exact door_persistAfter L True.intro _
      · exact Door.value _ fun _ _ => True.intro
    exact Door.value _ fun _ _ => hcomposed
  · rintro c ⟨_, hcomposed⟩
    exact ⟨hcomposed, True.intro⟩

theorem door_processIncomingWith {frame : Frame M}
    {approval : Option EstablishmentApproval} :
    Door (receiveEvents frame) p (processIncomingWith frame approval)
      (fun _ _ => True) := by
  unfold processIncomingWith
  refine Door.bind Door.state fun before => ?_
  refine Door.bind (Door.locked (via_processIncomingInner L)) fun result => ?_
  refine Door.bind Door.state fun after => ?_
  refine Door.bind (q := fun _ _ => True) ?_ fun _ => ?_
  · exact Door.ite (Door.value _ fun _ _ => True.intro)
      (door_persistAfter L True.intro _)
  exact Door.value _ fun _ _ => True.intro

theorem door_queueProposal {digest : Bytes} {offered : Option (PeerProposal M)} :
    Door (queueEvents offered) (fun c => c.offered = offered)
      (queueProposal digest) (fun _ _ => True) := by
  unfold queueProposal
  refine Door.bind Door.state fun t => ?_
  refine Door.bind (Door.ensure _ _) fun _ => ?_
  refine Door.pre (p := fun c => c.offered = offered) ?_ fun c hc => hc.2.2
  exact (door_mutateAndPersist L True.intro (via_queueProposalInner L)).post
    fun _ _ _ => True.intro

theorem door_shouldListenOn :
    Door quietEvents p (shouldListenOn (M := M)) (fun _ _ => True) := by
  unfold shouldListenOn
  refine Door.pre (p := fun _ => True) ?_ fun _ _ => True.intro
  refine Door.bind (Door.locked (Via.quiet True.intro (Stable.const True)
    (quiet_recordListenRendezvous L))) fun _ => ?_
  refine Door.bind (Door.locked (Via.quiet True.intro (Stable.const True)
    quiet_recordPqHeaderKey)) fun _ => ?_
  refine Door.bind Door.state fun t => ?_
  refine Door.bind (Door.ensure _ _) fun _ => ?_
  exact Door.value _ fun _ _ => True.intro

omit L in
theorem via_handOut {c₀ : Core M} {stable : Bool} {A : Event M -> Prop} :
    Via A (fun c => c = c₀) (handOut (M := M) stable)
      (fun leg _ => forall f, leg = some f -> c₀.sideBand = some f) := by
  unfold handOut
  refine Via.bind Via.state fun s => ?_
  cases hparked : s.round.pendingSideBand with
  | none => exact Via.value _ fun _ _ => nofun
  | some retained =>
      have hout : forall c : Core M, s.core = c ∧ c = c₀ ->
          forall f, some retained.frame = some f -> c₀.sideBand = some f := by
        rintro c ⟨rfl, rfl⟩ f hf
        cases hf
        exact parked_sideBand hparked
      dsimp only
      refine Via.ite (Via.value _ hout) ?_
      refine Via.looking (fun s' => still_sealSideBand retained.frame s')
        fun sealed => ?_
      refine Via.ite ?_ (Via.value _ fun _ _ => nofun)
      refine Via.bind (q := fun _ _ =>
        forall f, some retained.frame = some f -> c₀.sideBand = some f) ?_ fun _ => ?_
      · refine Via.ite ?_ (Via.value _ hout)
        refine Via.update fun s' hs => ⟨?_, hout _ hs⟩
        have hframe : s'.core.sideBand = some retained.frame := by
          rw [← hs.1]
          change s.round.pendingSideBand.map RetainedFrame.frame = _
          rw [hparked]
          rfl
        have hsame :
            (s'.mapRound fun r => { r with
              pendingSideBand := some { retained with
                sealedAt := sideBandSealEpoch s retained.frame } }).core =
              s'.core := by
          change { s'.core with sideBand := some retained.frame } = s'.core
          rw [← hframe]
        change Path A s'.core _
        rw [hsame]
        exact Path.refl
      exact Via.value _ fun _ hc => hc

omit L in
theorem door_pqPendingOutbound {c₀ : Core M} {stable : Bool} :
    Door quietEvents (fun c => c = c₀) (pqPendingOutbound (M := M) stable)
      (fun leg _ => forall f, leg = some f -> c₀.sideBand = some f) := by
  unfold pqPendingOutbound
  refine Door.bind door_gate fun delegated => ?_
  split
  · exact Door.locked via_handOut
  · exact Door.value _ fun _ _ => nofun

theorem door_pqTakePendingOutbound {c₀ : Core M} :
    Door takeEvents (fun c => c = c₀) (pqTakePendingOutbound (M := M))
      (fun leg _ => forall f, leg = some f -> c₀.sideBand = some f) := by
  unfold pqTakePendingOutbound
  refine Door.bind door_gate fun delegated => ?_
  refine Door.bind Door.state fun t => ?_
  split
  next retained _ hparked =>
    refine Door.pre (p := fun _ => c₀.sideBand = some retained.frame ∧ True) ?_ ?_
    · refine Door.assume fun hframe => ?_
      refine Door.bind (q := fun _ _ => True) ?_ fun _ => ?_
      · exact fun t _ =>
          ⟨Advances.silent
            (Path.single (e := .clearSideBand) True.intro Step.clearSideBand) rfl,
            fun _ _ => True.intro⟩
      refine Door.bind (q := fun _ _ => True) ?_ fun sealed => ?_
      · exact (Door.locked (Via.quiet True.intro (Stable.const True)
          (quiet_sealSideBand _))).attempt.post fun _ _ _ => True.intro
      refine Door.bind (door_persistHandOut L True.intro) fun _ => ?_
      refine Door.value _ fun _ _ f hf => ?_
      split at hf
      · cases hf
        exact hframe
      · cases hf
    · rintro c ⟨rfl, rfl⟩
      exact ⟨parked_sideBand hparked, True.intro⟩
  next => exact Door.value _ fun _ _ => nofun

theorem door_pqRatchetRespond {frame : Frame M} {rnd : Nat -> M.Seed} :
    Door ratchetRespondEvents p (pqRatchetRespond frame rnd) (fun _ _ => True) := by
  unfold pqRatchetRespond
  refine Door.bind (Door.locked via_ratchetRespondGuard) fun leg => ?_
  refine Door.pre (p := fun c => c.inflight = none) ?_ fun _ hc => hc.1
  exact (door_mutateAndPersist L True.intro (via_ratchetRespondInner L)).post
    fun _ _ _ => True.intro

theorem door_pqRatchetBind {frame : Frame M} {seed : M.Seed} :
    Door bindEvents p (pqRatchetBind frame seed) (fun _ _ => True) := by
  unfold pqRatchetBind
  refine Door.bind (Door.locked via_ratchetBindGuard) fun opened => ?_
  refine Door.pre (p := fun c => c.owed = none) ?_ fun _ hc => hc.1
  exact (door_mutateAndPersist L True.intro (via_ratchetBindInner L)).post
    fun _ _ _ => True.intro

theorem door_pqRekeyRespond {frame : Frame M} {seed : M.Seed} :
    Door rekeyRespondEvents p (pqRekeyRespond frame seed) (fun _ _ => True) := by
  unfold pqRekeyRespond
  refine Door.bind (Door.locked via_rekeyRespondGuard) fun proposal => ?_
  refine Door.assume fun hkind => ?_
  refine Door.pre (p := fun c => c.owed = none) ?_ fun _ hc => hc.1
  exact (door_mutateAndPersist L True.intro (via_rekeyRespondInner L hkind)).post
    fun _ _ _ => True.intro

theorem door_pqRekeyApply {frame : Frame M} {seed : M.Seed} :
    Door rekeyApplyEvents p (pqRekeyApply frame seed) (fun _ _ => True) := by
  unfold pqRekeyApply
  refine Door.bind (Door.locked via_rekeyApplyGuard) fun commit => ?_
  refine Door.pre (p := fun c =>
    c.inflight = some .rekeyInitiated ∧ c.owed = none) ?_ fun _ hc => hc.1
  exact (door_mutateAndPersist L True.intro (via_rekeyApplyInner L)).post
    fun _ _ _ => True.intro

theorem door_pqBootstrapBegin {c₀ : Core M} {rotating : Option Bytes} :
    Door bootstrapOpenEvents (fun c => c = c₀) (pqBootstrapBegin (M := M) rotating)
      (fun leg _ => LegOf c₀ leg) := by
  unfold pqBootstrapBegin
  refine Door.bind (Door.locked via_bootstrapBeginGuard) fun retained => ?_
  cases retained with
  | some frame => exact Door.value _ fun _ hc => hc.1 frame rfl
  | none =>
      refine Door.pre (p := fun c => c = c₀) ?_ fun _ hc => hc.2.2
      exact (door_mutateAndPersist L True.intro via_bootstrapBeginInner).post
        fun _ _ hc => hc.choose_spec

theorem door_pqBootstrapEnvelope {c₀ : Core M} {seed : M.Seed} :
    Door bootstrapOpenEvents (fun c => c = c₀) (pqBootstrapEnvelope seed)
      (fun leg _ => LegOf c₀ leg) := by
  unfold pqBootstrapEnvelope
  refine Door.bind (Door.locked via_bootstrapEnvelopeGuard) fun retained => ?_
  cases retained with
  | some frame => exact Door.value _ fun _ hc => hc.1 frame rfl
  | none =>
      refine Door.pre (p := fun c => c₀.bootstrapKp ≠ none ∧ c = c₀) ?_
        fun _ hc => ⟨hc.2.1 rfl, hc.2.2⟩
      refine Door.assume fun hheld => ?_
      exact (door_mutateAndPersist L True.intro
        (via_bootstrapEnvelopeInner hheld)).post fun _ _ hc => hc.choose_spec

theorem door_pqBootstrapRespond {frame : Frame M} {rnd : Nat -> M.Seed} :
    Door bootstrapRespondEvents p (pqBootstrapRespond frame rnd)
      (fun _ _ => True) := by
  unfold pqBootstrapRespond
  refine Door.bind (Door.locked via_bootstrapRespondGuard) fun kp => ?_
  exact (door_mutateAndPersist L True.intro (via_bootstrapRespondInner L)).post
    fun _ _ _ => True.intro

theorem door_pqBootstrapBind {frame : Frame M} {seed : M.Seed} :
    Door bootstrapBindEvents p (pqBootstrapBind frame seed) (fun _ _ => True) := by
  unfold pqBootstrapBind
  refine Door.bind (Door.locked via_bootstrapBindGuard) fun welcome => ?_
  refine Door.pre (p := fun c =>
    c.owed = none ∧ c.inflight = some .bootstrapInitiated) ?_
      fun _ hc => ⟨hc.1, hc.2.1⟩
  exact (door_mutateAndPersist L True.intro (via_bootstrapBindInner L)).post
    fun _ _ _ => True.intro

/-!
## The calls together
-/

omit L in
theorem door_handing {A : Event M -> Prop} {x : ApiOp M α}
    {q : α -> Core M -> Prop} (frames : α -> List (Frame M)) (hx : Door A p x q) :
    Door A p (handing x frames)
      (fun fs _ => exists a c, fs = frames a ∧ q a c) := by
  unfold handing
  refine Door.bind hx fun a => ?_
  exact Door.value _ fun c hc => ⟨a, c, rfl, hc⟩

omit L in
/-- Where a frame handed out by a session comes from: a message frame repeats
the staple and the staged update, an envelope repeats the welcome, and the
establishment frame was parked, and a leg was parked or carries the
pre-committed key package. -/
inductive EmittedBy (c : Core M) : Frame M -> Prop
  | message {st : Staple M} {update : Bytes × Blob M} {app : Blob M}
      (staple : c.staple = some st) (pending : c.pending = some update)
      (encrypted : AppBlob app) :
      EmittedBy c (.message st (some update) app)
  | envelope {e : InitialEnvelope M} {f : Frame M}
      (composed : EnvelopeOf c.staple e) (mem : f ∈ e.frames) : EmittedBy c f
  | parked {out : Outbound M} {f : Frame M}
      (parked : c.outbound = some out) (mem : f ∈ out.frames) : EmittedBy c f
  | sideBand {leg : SideBand M} (source : LegOf c leg) : EmittedBy c (.sideBand leg)

omit L in
theorem mem_envelope_frames {e : InitialEnvelope M} {f : Frame M}
    (h : f ∈ e.frames) :
    (exists w, e.welcome = some w ∧ f = .welcome w) ∨
      exists app, e.stapled = some app ∧ f = .preEstablishment app := by
  unfold InitialEnvelope.frames at h
  simp only [List.mem_append, Option.mem_toList, Option.map_eq_some_iff] at h
  rcases h with ⟨w, hw, rfl⟩ | ⟨app, happ, rfl⟩
  · exact Or.inl ⟨w, hw, rfl⟩
  · exact Or.inr ⟨app, happ, rfl⟩

omit L in
theorem mem_staple_frames {st : Staple M} {f : Frame M} (h : f ∈ st.frames) :
    (exists w, st = .welcome w ∧ f = .welcome w) ∨
      exists envelope w, st = .handoff envelope w ∧ f = .handoff envelope w := by
  cases st with
  | welcome w =>
      cases List.mem_singleton.mp h
      exact Or.inl ⟨w, rfl, rfl⟩
  | handoff envelope w =>
      cases List.mem_singleton.mp h
      exact Or.inr ⟨envelope, w, rfl, rfl⟩
  | _ => cases h

omit L in
theorem EmittedBy.message_inv {c : Core M} {st : Staple M}
    {proposal : ProposalSection M} {app : Blob M}
    (h : EmittedBy c (.message st proposal app)) :
    c.staple = some st ∧
      (exists update, proposal = some update ∧ c.pending = some update) ∧
      AppBlob app := by
  have hnever : forall {e : InitialEnvelope M},
      Frame.message st proposal app ∉ e.frames := by
    intro e hmem
    rcases mem_envelope_frames hmem with ⟨_, _, h⟩ | ⟨_, _, h⟩
    · cases h
    · cases h
  cases h with
  | message staple pending encrypted =>
      exact ⟨staple, ⟨_, rfl, pending⟩, encrypted⟩
  | envelope composed mem => exact (hnever mem).elim
  | parked parked mem =>
      rename_i out
      cases out with
      | envelope e => exact (hnever mem).elim
      | staple st =>
          rcases mem_staple_frames mem with ⟨_, _, h⟩ | ⟨_, _, _, h⟩
          · cases h
          · cases h

omit L in
theorem EmittedBy.sideBand_inv {c : Core M} {leg : SideBand M}
    (h : EmittedBy c (.sideBand leg)) :
    LegOf c leg := by
  cases h with
  | sideBand source => exact source
  | envelope composed mem =>
      rcases mem_envelope_frames mem with ⟨_, _, h⟩ | ⟨_, _, h⟩
      · cases h
      · cases h
  | parked parked mem =>
      rename_i out
      cases out with
      | envelope e =>
          rcases mem_envelope_frames mem with ⟨_, _, h⟩ | ⟨_, _, h⟩
          · cases h
          · cases h
      | staple st =>
          rcases mem_staple_frames mem with ⟨_, _, h⟩ | ⟨_, _, _, h⟩
          · cases h
          · cases h

theorem call_advances (call : Call M) (t : TwoMlsPqSession M)
    (happroved : ApprovedProposal t.inner.core.queued) :
    Advances (call.events t.inner.core) t (call.run.run t).2 := by
  cases call with
  | installSink =>
      exact (door_handing _ (door_installSink L (p := fun _ => True))).advances
        True.intro
  | pendingOutbound =>
      exact (door_handing _ (door_pendingOutbound L)).advances rfl
  | installEstablishmentEnvelope envelope =>
      exact (door_handing _
        (door_installEstablishmentEnvelope L (p := fun _ => True))).advances True.intro
  | setInitialAppPayload payload seed =>
      exact (door_handing _ (door_setInitialField L (p := fun _ => True)
        fun _ => rfl)).advances
        True.intro
  | setInitialReturnKeyPackage kp seed =>
      exact (door_handing _ (door_setInitialField L (p := fun _ => True)
        fun _ => rfl)).advances
        True.intro
  | prepareToEncrypt proposing rnd =>
      exact (door_handing _ (door_prepareToEncrypt L happroved)).advances rfl
  | encrypt appMessage rnd =>
      exact (door_handing _ (door_encrypt L)).advances ⟨rfl, rfl⟩
  | processIncoming frame approval =>
      exact (door_handing _ (door_processIncomingWith L (p := fun _ => True))).advances
        True.intro
  | queueProposal digest => exact (door_handing _ (door_queueProposal L)).advances rfl
  | exportAttachmentCekSend keyId =>
      exact (door_handing _ (door_expanding L keyId (p := fun _ => True)
        (quiet_sendAttachmentComponent L))).advances True.intro
  | exportAttachmentCekRecv keyId epoch =>
      exact (door_handing _ (door_expanding L keyId (p := fun _ => True)
        (quiet_recvAttachmentComponent L epoch))).advances True.intro
  | shouldListenOn =>
      exact (door_handing _ (door_shouldListenOn L (p := fun _ => True))).advances
        True.intro
  | pqPendingOutbound stable =>
      exact (door_handing _ door_pqPendingOutbound).advances rfl
  | pqTakePendingOutbound =>
      exact (door_handing _ (door_pqTakePendingOutbound L)).advances rfl
  | pqRatchetRespond frame rnd =>
      exact (door_handing _ (door_pqRatchetRespond L (p := fun _ => True))).advances
        True.intro
  | pqRatchetBind frame seed =>
      exact (door_handing _ (door_pqRatchetBind L (p := fun _ => True))).advances
        True.intro
  | pqRekeyRespond frame seed =>
      exact (door_handing _ (door_pqRekeyRespond L (p := fun _ => True))).advances
        True.intro
  | pqRekeyApply frame seed =>
      exact (door_handing _ (door_pqRekeyApply L (p := fun _ => True))).advances
        True.intro
  | pqBootstrapBegin rotating =>
      exact (door_handing _ (door_pqBootstrapBegin L)).advances rfl
  | pqBootstrapEnvelope seed =>
      exact (door_handing _ (door_pqBootstrapEnvelope L)).advances rfl
  | pqBootstrapRespond frame rnd =>
      exact (door_handing _ (door_pqBootstrapRespond L (p := fun _ => True))).advances
        True.intro
  | pqBootstrapBind frame seed =>
      exact (door_handing _ (door_pqBootstrapBind L (p := fun _ => True))).advances
        True.intro

theorem call_goes (call : Call M) (t : TwoMlsPqSession M)
    (happroved : ApprovedProposal t.inner.core.queued) :
    Path (call.events t.inner.core) t.inner.core
      (call.run.run t).2.inner.core :=
  (call_advances L call t happroved).1

omit L in
theorem handing_run {x : ApiOp M α} {frames : α -> List (Frame M)}
    (t : TwoMlsPqSession M) :
    ((handing x frames).run t).2 = (x.run t).2 :=
  Op.run_bind_still (fun _ => Op.Still.value _) t

omit L in
theorem handing_ok {x : ApiOp M α} {frames : α -> List (Frame M)}
    {t : TwoMlsPqSession M} {fs : List (Frame M)}
    (h : ((handing x frames).run t).1 = .ok fs) :
    exists a, (x.run t).1 = .ok a ∧ fs = frames a := by
  unfold handing at h
  rw [Op.run_bind] at h
  rcases hrun : x.run t with ⟨r, t'⟩
  rw [hrun] at h
  cases r with
  | error e => cases h
  | ok a =>
      cases h
      exact ⟨a, rfl, rfl⟩

theorem call_emits {call : Call M} {t : TwoMlsPqSession M} {fs : List (Frame M)}
    (hrun : (call.run.run t).1 = .ok fs) {f : Frame M} (hf : f ∈ fs) :
    EmittedBy t.inner.core f := by
  have hsideBand : forall {o : Option (SideBand M)},
      (forall leg, o = some leg -> LegOf t.inner.core leg) ->
        f ∈ (o.map Frame.sideBand).toList -> EmittedBy t.inner.core f := by
    intro o hlegs h
    rw [Option.mem_toList, Option.map_eq_some_iff] at h
    rcases h with ⟨leg, hleg, rfl⟩
    exact EmittedBy.sideBand (hlegs leg hleg)
  cases call with
  | pendingOutbound =>
      rcases handing_ok hrun with ⟨out, hout, rfl⟩
      cases out with
      | none => cases hf
      | some out =>
          exact EmittedBy.parked
            ((door_pendingOutbound L).result (t := t) rfl hout out rfl) hf
  | encrypt appMessage rnd =>
      rcases handing_ok hrun with ⟨r, hr, rfl⟩
      have hcomposed := (door_encrypt L).result (t := t) ⟨rfl, rfl⟩ hr
      cases hout : r.cipherText with
      | envelope e =>
          rw [hout] at hf hcomposed
          exact EmittedBy.envelope hcomposed hf
      | frame f' =>
          rw [hout] at hf hcomposed
          rcases hcomposed with ⟨st, update, app, rfl, hstaple, hpending, happ⟩
          cases List.mem_singleton.mp hf
          exact EmittedBy.message hstaple hpending happ
  | pqPendingOutbound stable =>
      rcases handing_ok hrun with ⟨o, ho, rfl⟩
      have hparked := door_pqPendingOutbound.result (t := t) rfl ho
      exact hsideBand (fun leg hleg => Or.inl (hparked leg hleg)) hf
  | pqTakePendingOutbound =>
      rcases handing_ok hrun with ⟨o, ho, rfl⟩
      have hparked := (door_pqTakePendingOutbound L).result (t := t) rfl ho
      exact hsideBand (fun leg hleg => Or.inl (hparked leg hleg)) hf
  | pqBootstrapBegin rotating =>
      rcases handing_ok hrun with ⟨leg, hleg, rfl⟩
      cases List.mem_singleton.mp hf
      exact EmittedBy.sideBand ((door_pqBootstrapBegin L).result (t := t) rfl hleg)
  | pqBootstrapEnvelope seed =>
      rcases handing_ok hrun with ⟨leg, hleg, rfl⟩
      cases List.mem_singleton.mp hf
      exact EmittedBy.sideBand ((door_pqBootstrapEnvelope L).result (t := t) rfl hleg)
  | _ =>
      -- the other calls hand out nothing
      rcases handing_ok hrun with ⟨_, _, rfl⟩
      cases hf

end

/-!
## Who bootstraps
-/

theorem joinRecvPq_bind {c : Core M} {call : Call M} {w : Blob M}
    (he : call.events c (.joinRecvPq w)) :
    exists frame seed, call = .pqBootstrapBind frame seed := by
  cases call with
  | pqBootstrapBind frame seed => exact ⟨frame, seed, rfl⟩
  | _ => exact he.elim

/-- The two doors that open the bootstrap round. -/
def Call.OpensBootstrap : Call M -> Prop
  | .pqBootstrapBegin _ => True
  | .pqBootstrapEnvelope _ => True
  | _ => False

theorem registerBootstrap_opens {c : Core M} {call : Call M} {kp : Blob M}
    (he : call.events c (.registerBootstrap kp)) :
    call.OpensBootstrap := by
  cases call with
  | pqBootstrapBegin rotating => exact True.intro
  | pqBootstrapEnvelope seed => exact True.intro
  | _ => exact he.elim

theorem Call.OpensBootstrap.events {c : Core M} {call : Call M} {e : Event M}
    (h : call.OpensBootstrap) (he : call.events c e) :
    bootstrapOpenEvents e := by
  cases call with
  | pqBootstrapBegin rotating => exact he
  | pqBootstrapEnvelope seed => exact he
  | _ => exact h.elim

/-!
## Beside the message path

Only three calls commit, receive or approve.  All others leave the message path
alone, up to a commit of our own on the send post-quantum half.
-/

def Event.Beside : Event M -> Prop
  | .peerCommit _ _ => False
  | .ownCommit h fold _ => h = .sendPq ∧ fold = none
  | .propose h _ _ => h = .recvPq
  | .joinRecv _ => False
  | .setPending p => p = none
  | .setOffered _ => False
  | .setQueued _ => False
  | .setMark _ => False
  | .enlist _ => False
  | .authorizeTheirs _ => False
  | .commitTheirs _ _ => False
  | .commitMine _ => False
  | .install _ => False
  | .setAdopting _ => False
  | .breakReceive => False
  | _ => True

def Call.Messages : Call M -> Prop
  | .prepareToEncrypt _ _ => True
  | .processIncoming _ _ => True
  | .queueProposal _ => True
  | _ => False

theorem beside_quiet {e : Event M} (h : quietEvents e) : e.Beside := by
  cases e <;> first | exact True.intro | exact h.elim

theorem beside_outbound {e : Event M} (h : outboundEvents e) : e.Beside := by
  cases e <;> first | exact True.intro | exact h.elim

theorem beside_envelope {e : Event M} (h : envelopeEvents e) : e.Beside := by
  cases e <;> first | exact True.intro | exact h.elim

theorem beside_encrypt {e : Event M} (h : encryptEvents e) : e.Beside := by
  cases e <;> first | exact True.intro | exact h.elim | exact h

theorem beside_take {e : Event M} (h : takeEvents e) : e.Beside := by
  cases e <;> first | exact True.intro | exact h.elim

theorem beside_ratchetRespond {e : Event M} (h : ratchetRespondEvents e) :
    e.Beside := by
  cases e <;> first | exact True.intro | exact h.elim

theorem beside_bind {e : Event M} (h : bindEvents e) : e.Beside := by
  cases e <;> first | exact True.intro | exact h.elim | exact ⟨h.1, h.2.1⟩

theorem beside_rekeyRespond {e : Event M} (h : rekeyRespondEvents e) :
    e.Beside := by
  cases e <;> first | exact True.intro | exact h.elim | exact h

theorem beside_rekeyApply {e : Event M} (h : rekeyApplyEvents e) : e.Beside := by
  cases e <;> first | exact True.intro | exact h.elim | exact ⟨h.1, h.2.1⟩

theorem beside_bootstrapOpen {e : Event M} (h : bootstrapOpenEvents e) :
    e.Beside := by
  cases e <;> first | exact True.intro | exact h.elim

theorem beside_bootstrapRespond {e : Event M} (h : bootstrapRespondEvents e) :
    e.Beside := by
  cases e <;> first | exact True.intro | exact h.elim

theorem beside_bootstrapBind {e : Event M} (h : bootstrapBindEvents e) :
    e.Beside := by
  cases e <;> first | exact True.intro | exact beside_bind h

theorem events_beside {call : Call M} {c : Core M} {e : Event M}
    (hother : ¬ call.Messages) (he : call.events c e) :
    e.Beside := by
  cases call with
  | prepareToEncrypt proposing rnd => exact (hother True.intro).elim
  | processIncoming frame approval => exact (hother True.intro).elim
  | queueProposal digest => exact (hother True.intro).elim
  | pendingOutbound => exact beside_outbound he
  | installEstablishmentEnvelope envelope => exact beside_envelope he
  | setInitialAppPayload payload seed => exact beside_outbound he
  | setInitialReturnKeyPackage kp seed => exact beside_outbound he
  | encrypt appMessage rnd => exact beside_encrypt he
  | pqTakePendingOutbound => exact beside_take he
  | pqRatchetRespond frame rnd => exact beside_ratchetRespond he
  | pqRatchetBind frame seed => exact beside_bind he
  | pqRekeyRespond frame seed => exact beside_rekeyRespond he
  | pqRekeyApply frame seed => exact beside_rekeyApply he
  | pqBootstrapBegin rotating => exact beside_bootstrapOpen he
  | pqBootstrapEnvelope seed => exact beside_bootstrapOpen he
  | pqBootstrapRespond frame rnd => exact beside_bootstrapRespond he
  | pqBootstrapBind frame seed => exact beside_bootstrapBind he
  | _ => exact beside_quiet he

end

end Session
end TwoMlsPq
