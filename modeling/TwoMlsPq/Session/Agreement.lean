import TwoMlsPq.Session.Adoption
import TwoMlsPq.Session.CoreOnly
import TwoMlsPq.Session.Manifests
import TwoMlsPq.Session.NoReturn
import TwoMlsPq.Session.Parking

/-!
# Blobs that agree on the post-quantum epochs

While every post-quantum epoch a receive moves comes with a blob, the blobs behind
the newest Checkpoint name its epochs, and so does the session while a sink is
installed.  A restore then succeeds at every moment from the first blob on.
-/

namespace TwoMlsPq
namespace Session

open Foundation Apq

section

variable {M : MlsRs} {α β : Type}

/-!
## Events at the same post-quantum epochs
-/

def Event.KeepsPqEpochs : Event M -> Prop
  | .peerCommit h _ => h.isPq = false
  | .applyRekey _ => False
  | .ownCommit h _ _ => h.isPq = false
  | .joinRecv _ => False
  | .createSendPq _ => False
  | .joinRecvPq _ => False
  | _ => True

theorem Core.epoch_setHalf_of_ne {c : Core M} {h h' : Half} {g : M.Group}
    (hne : h' ≠ h) : (c.setHalf h g).epoch h' = c.epoch h' := by
  unfold Core.epoch
  rw [Core.half_setHalf_of_ne hne]

theorem epoch_step {e : Event M} {c c' : Core M} {h : Half} (hpq : h.isPq = true)
    (he : e.KeepsPqEpochs) (hstep : Step e c c') : c'.epoch h = c.epoch h := by
  have hother : forall h₁ : Half, h₁.isPq = false -> h ≠ h₁ := by
    intro h₁ hclassical heq
    rw [heq, hclassical] at hpq
    cases hpq
  cases hstep with
  | quiet hq => exact (hq.1 h).epochs
  | peerCommit held idle kind applied =>
      exact Core.epoch_setHalf_of_ne (hother _ he)
  | ownCommit held discharged licensed handoff applied =>
      exact Core.epoch_setHalf_of_ne (hother _ rfl)
  | ownCommitPq held discharged handoff applied => cases he
  | @propose _ h₁ _ _ g g' held introduces proposed =>
      by_cases heq : h = h₁
      · subst heq
        unfold Core.epoch
        rw [Core.half_setHalf, held, Option.map_some, Option.map_some, proposed.epoch]
      · exact Core.epoch_setHalf_of_ne heq
  | applyRekey held initiated applied => exact he.elim
  | joinRecv missing missingPq parsed joined joinedPq decoded => exact he.elim
  | createSendPq missing created => exact he.elim
  | joinRecvPq missing live initiated parsed joined => exact he.elim
  | _ => rfl

theorem epoch_path {A : Event M -> Prop} {c c' : Core M} {h : Half}
    (hA : forall e, A e -> e.KeepsPqEpochs) (hpq : h.isPq = true) (hpath : Path A c c') :
    c'.epoch h = c.epoch h :=
  hpath.invariant (I := fun c' => c'.epoch h = c.epoch h)
    (fun e _ _ he hstep hI => (epoch_step hpq (hA e he) hstep).trans hI) rfl

/-- The calls whose own business moves a post-quantum epoch, and the receive. -/
def Call.MayMovePq : Call M -> Prop
  | .processIncoming _ _ => True
  | .pqRatchetBind _ _ => True
  | .pqRekeyRespond _ _ => True
  | .pqRekeyApply _ _ => True
  | .pqBootstrapRespond _ _ => True
  | .pqBootstrapBind _ _ => True
  | _ => False

theorem events_keepPqEpochs {c : Core M} {call : Call M} (hcall : ¬ call.MayMovePq)
    {e : Event M} (he : call.events c e) : e.KeepsPqEpochs := by
  cases e with
  | peerCommit h m =>
      cases call with
      | queueProposal digest =>
          rcases he with ⟨rfl, _⟩
          rfl
      | processIncoming frame approval => exact absurd True.intro hcall
      | _ => exact he.elim
  | ownCommit h fold identity =>
      cases call with
      | prepareToEncrypt proposing rnd =>
          rcases he with ⟨rfl, _⟩
          rfl
      | _ => first | exact he.elim | exact absurd True.intro hcall
  | applyRekey m =>
      cases call with
      | _ => first | exact he.elim | exact absurd True.intro hcall
  | joinRecv w =>
      cases call with
      | _ => first | exact he.elim | exact absurd True.intro hcall
  | createSendPq kp =>
      cases call with
      | _ => first | exact he.elim | exact absurd True.intro hcall
  | joinRecvPq w =>
      cases call with
      | _ => first | exact he.elim | exact absurd True.intro hcall
  | _ => exact True.intro

/-!
## Blobs behind a Checkpoint
-/

def Archive.manifest (a : Archive M) : Option Nat × Option Nat :=
  (a.wire.sendPqEpoch, a.wire.recvPqEpoch)

/-- From some Checkpoint on every blob names these epochs. -/
def Agrees (epochs : Option Nat × Option Nat) (pushed : List (Push M)) : Prop :=
  exists older ck newer, pushed = older ++ ck :: newer ∧ ck.kind = .checkpoint ∧
    forall p, p ∈ ck :: newer -> p.archive.manifest = epochs

theorem Agrees.append {epochs : Option Nat × Option Nat} {pushed new : List (Push M)}
    (h : Agrees epochs pushed)
    (hnew : forall p, p ∈ new -> p.archive.manifest = epochs) :
    Agrees epochs (pushed ++ new) := by
  rcases h with ⟨older, ck, newer, rfl, hkind, hnewer⟩
  refine ⟨older, ck, newer ++ new, ?_, hkind, ?_⟩
  · rw [List.append_assoc, List.cons_append]
  · intro p hp
    rw [<- List.cons_append] at hp
    rcases List.mem_append.mp hp with hold | hadded
    · exact hnewer p hold
    · exact hnew p hadded

theorem Agrees.checkpoint {epochs : Option Nat × Option Nat} {pushed : List (Push M)}
    {p : Push M} (hkind : p.kind = .checkpoint) (hp : p.archive.manifest = epochs) :
    Agrees epochs (pushed ++ [p]) := by
  refine ⟨pushed, p, [], rfl, hkind, ?_⟩
  intro q hq
  rw [List.mem_singleton.mp hq]
  exact hp

theorem latest_split {kind : BlobKind} {older newer : List (Push M)} {p : Push M}
    (hkind : p.kind = kind) :
    exists q, q ∈ p :: newer ∧ latest kind (older ++ p :: newer) = some q.archive := by
  have hsome : ((p :: newer).filter fun q => q.kind = kind).getLast?.isSome = true := by
    rw [List.getLast?_isSome]
    intro hnil
    have hp := List.filter_eq_nil_iff.mp hnil p List.mem_cons_self
    exact hp (decide_eq_true hkind)
  rcases Option.isSome_iff_exists.mp hsome with ⟨q, hq⟩
  refine ⟨q, (List.mem_filter.mp (List.mem_of_getLast? hq)).1, ?_⟩
  unfold latest
  rw [List.filter_append, List.getLast?_append, hq]
  rfl

theorem Recorded.agreeing {epochs : Option Nat × Option Nat} {s : SessionInner M}
    {pushed : List (Push M)} {shown : List (SessionInner M)}
    (h : Recorded s pushed shown) (hagrees : Agrees epochs pushed) :
    Restorable pushed := by
  rcases hagrees with ⟨older, ck, newer, rfl, hkind, hnewer⟩
  have hseq : forall p, p ∈ older ++ ck :: newer -> p.archive.wire.stateSeq = p.seq := by
    intro p hp
    rcases exists_shown h.journal.shows hp with ⟨s₀, _, hshows⟩
    exact hshows.wireSeq
  rcases latest_split hkind with ⟨q, hq, ha⟩
  refine ⟨q.archive, ha, ?_⟩
  intro core hcore
  rcases latest_mem hcore with ⟨p, hp, hpKind, rfl⟩
  rcases List.mem_append.mp hp with hold | hnew
  · left
    have hqMem : q ∈ older ++ ck :: newer := List.mem_append_right _ hq
    rw [hseq p hp, hseq q hqMem]
    exact ((List.pairwise_append.mp h.ordered).2.2 p hold q hq).le
  · right
    have hmanifest := (hnewer p hnew).trans (hnewer q hq).symm
    exact ⟨congrArg Prod.fst hmanifest, congrArg Prod.snd hmanifest⟩

/-!
## The sink
-/

def Wired (b : Bool) (pushed : List (Push M)) (t : TwoMlsPqSession M) : Prop :=
  t.sinkInstalled = b ∧ (b = false -> t.pushed = pushed)

section

variable {b : Bool} {pushed : List (Push M)}

theorem wired_locked (x : SessionOp M α) : Op.Keeps (Wired b pushed) (locked x) :=
  fun _ h => h

theorem wired_bumpSeq : Op.Keeps (Wired b pushed) (bumpSeq : ApiOp M Bool) := by
  unfold bumpSeq
  refine Op.Keeps.looking Op.Still.state fun t => ?_
  apply Op.Keeps.ite
  · exact Op.Keeps.bind (Op.Keeps.update fun _ h => h) fun _ => Op.Keeps.value _
  · exact Op.Keeps.value _

theorem wired_encodeAndPush (kind : BlobKind) :
    Op.Keeps (Wired b pushed) (encodeAndPush (M := M) kind) := by
  intro t h
  cases b with
  | false =>
      rw [encodeAndPush_silent kind h.1]
      exact h
  | true => exact ⟨keeps_sink kind true t h.1, fun hb => nomatch hb⟩

theorem wired_mutateAndPersist (kind : BlobKind) (x : SessionOp M α) :
    Op.Keeps (Wired b pushed) (mutateAndPersist kind x) := by
  unfold mutateAndPersist
  refine Op.Keeps.bind wired_bumpSeq fun bumped => ?_
  apply Op.Keeps.ite
  · refine Op.Keeps.bind (wired_locked x).attempt fun result => ?_
    refine Op.Keeps.bind (wired_encodeAndPush kind).attempt fun encoded => ?_
    split
    · exact Op.Keeps.fail _
    · exact Op.Keeps.value _
    · exact Op.Keeps.fail _
  · exact wired_locked x

theorem wired_persistAfter (kind : BlobKind) :
    Op.Keeps (Wired b pushed) (persistAfter (M := M) kind) := by
  unfold persistAfter
  refine Op.Keeps.bind wired_bumpSeq fun bumped => ?_
  apply Op.Keeps.ite
  · exact Op.Keeps.bind (wired_encodeAndPush kind).attempt fun _ => Op.Keeps.value _
  · exact Op.Keeps.value _

theorem wired_persistHandOut :
    Op.Keeps (Wired b pushed) (persistHandOut : ApiOp M Unit) := by
  unfold persistHandOut
  refine Op.Keeps.bind wired_bumpSeq fun _ => ?_
  exact Op.Keeps.bind (wired_encodeAndPush .core).attempt fun _ => Op.Keeps.value _

theorem wired_pendingOutbound :
    Op.Keeps (Wired b pushed) (pendingOutbound : ApiOp M (Option (Outbound M))) := by
  unfold pendingOutbound
  refine Op.Keeps.bind (wired_locked _).attempt fun delegated => ?_
  refine Op.Keeps.looking Op.Still.state fun t => ?_
  split
  · refine Op.Keeps.bind (Op.Keeps.update fun _ h => h) fun _ => ?_
    refine Op.Keeps.bind ?_ fun out => ?_
    · apply Op.Keeps.ite
      · exact Op.Keeps.bind (wired_locked _).attempt fun _ => Op.Keeps.value _
      · exact Op.Keeps.value _
    · exact Op.Keeps.bind wired_persistHandOut fun _ => Op.Keeps.value _
  · exact Op.Keeps.value _

theorem wired_installEstablishmentEnvelope (envelope : Bytes) :
    Op.Keeps (Wired b pushed) (installEstablishmentEnvelope (M := M) envelope) := by
  unfold installEstablishmentEnvelope
  refine Op.Keeps.looking (Op.Still.ensure _ _) fun _ => ?_
  refine Op.Keeps.looking Op.Still.state fun t => ?_
  split
  · exact Op.Keeps.still (Op.Still.ensure _ _)
  · exact wired_mutateAndPersist _ _

theorem wired_encrypt (appMessage : Bytes) (rnd : Nat -> M.Seed) :
    Op.Keeps (Wired b pushed) (encrypt appMessage rnd) := by
  unfold encrypt
  refine Op.Keeps.bind (wired_mutateAndPersist _ _) fun result => ?_
  refine Op.Keeps.bind ?_ fun _ => Op.Keeps.value _
  apply Op.Keeps.ite
  · exact wired_persistAfter _
  · exact Op.Keeps.value _

theorem wired_processIncomingWith (frame : Frame M)
    (approval : Option EstablishmentApproval) :
    Op.Keeps (Wired b pushed) (processIncomingWith frame approval) := by
  unfold processIncomingWith
  refine Op.Keeps.looking Op.Still.state fun before => ?_
  refine Op.Keeps.bind (wired_locked _) fun result => ?_
  refine Op.Keeps.looking Op.Still.state fun after => ?_
  refine Op.Keeps.bind ?_ fun _ => Op.Keeps.value _
  apply Op.Keeps.ite
  · exact Op.Keeps.value _
  · exact wired_persistAfter _

theorem wired_shouldListenOn :
    Op.Keeps (Wired b pushed) (shouldListenOn : ApiOp M (List (Nat × Bytes))) := by
  unfold shouldListenOn
  refine Op.Keeps.bind (wired_locked _) fun _ => ?_
  refine Op.Keeps.bind (wired_locked _) fun _ => ?_
  refine Op.Keeps.looking Op.Still.state fun t => ?_
  exact Op.Keeps.looking (Op.Still.ensure _ _) fun _ => Op.Keeps.value _

theorem wired_pqPendingOutbound (stable : Bool) :
    Op.Keeps (Wired b pushed)
      (pqPendingOutbound stable : ApiOp M (Option (SideBand M))) := by
  unfold pqPendingOutbound
  refine Op.Keeps.bind (wired_locked _).attempt fun delegated => ?_
  apply Op.Keeps.ite
  · exact wired_locked _
  · exact Op.Keeps.value _

theorem wired_pqTakePendingOutbound :
    Op.Keeps (Wired b pushed)
      (pqTakePendingOutbound : ApiOp M (Option (SideBand M))) := by
  unfold pqTakePendingOutbound
  refine Op.Keeps.bind (wired_locked _).attempt fun delegated => ?_
  refine Op.Keeps.looking Op.Still.state fun t => ?_
  split
  · refine Op.Keeps.bind (Op.Keeps.update fun _ h => h) fun _ => ?_
    refine Op.Keeps.bind (wired_locked _).attempt fun _ => ?_
    exact Op.Keeps.bind wired_persistHandOut fun _ => Op.Keeps.value _
  · exact Op.Keeps.value _

theorem wired_queueProposal (digest : Bytes) :
    Op.Keeps (Wired b pushed) (queueProposal (M := M) digest) := by
  unfold queueProposal
  refine Op.Keeps.looking Op.Still.state fun t => ?_
  refine Op.Keeps.looking (Op.Still.ensure _ _) fun _ => ?_
  exact wired_mutateAndPersist _ _

theorem wired_guarded (guard : SessionOp M α) (kind : BlobKind)
    (body : α -> SessionOp M β) :
    Op.Keeps (Wired b pushed)
      (do
        let a <- locked guard
        mutateAndPersist kind (body a)) :=
  Op.Keeps.bind (wired_locked guard) fun _ => wired_mutateAndPersist _ _

theorem wired_resending (guard : SessionOp M (Option (SideBand M))) (kind : BlobKind)
    (body : SessionOp M (SideBand M)) :
    Op.Keeps (Wired b pushed)
      (do
        let retained <- locked guard
        match retained with
        | some frame => pure frame
        | none => mutateAndPersist kind body : ApiOp M (SideBand M)) := by
  refine Op.Keeps.bind (wired_locked guard) fun retained => ?_
  cases retained with
  | some frame => exact Op.Keeps.value _
  | none => exact wired_mutateAndPersist _ _

theorem wired_handing {x : ApiOp M α} (hx : Op.Keeps (Wired b pushed) x)
    (frames : α -> List (Frame M)) : Op.Keeps (Wired b pushed) (handing x frames) :=
  Op.Keeps.bind hx fun _ => Op.Keeps.value _

theorem wired_call (call : Call M) (hcall : call ≠ .installSink) :
    Op.Keeps (Wired b pushed) call.run := by
  cases call with
  | installSink => exact absurd rfl hcall
  | pendingOutbound => exact wired_handing wired_pendingOutbound _
  | installEstablishmentEnvelope envelope =>
      exact wired_handing (wired_installEstablishmentEnvelope envelope) _
  | setInitialAppPayload payload seed =>
      exact wired_handing (wired_mutateAndPersist _ _) _
  | setInitialReturnKeyPackage kp seed =>
      exact wired_handing (wired_mutateAndPersist _ _) _
  | prepareToEncrypt proposing rnd =>
      exact wired_handing (wired_mutateAndPersist _ _) _
  | encrypt appMessage rnd => exact wired_handing (wired_encrypt appMessage rnd) _
  | processIncoming frame approval =>
      exact wired_handing (wired_processIncomingWith frame approval) _
  | queueProposal digest => exact wired_handing (wired_queueProposal digest) _
  | exportAttachmentCekSend keyId =>
      exact wired_handing (Op.Keeps.bind (wired_mutateAndPersist _ _) fun _ =>
        Op.Keeps.still (Op.Still.ofExcept _)) _
  | exportAttachmentCekRecv keyId epoch =>
      exact wired_handing (Op.Keeps.bind (wired_mutateAndPersist _ _) fun _ =>
        Op.Keeps.still (Op.Still.ofExcept _)) _
  | shouldListenOn => exact wired_handing wired_shouldListenOn _
  | pqPendingOutbound stable => exact wired_handing (wired_pqPendingOutbound stable) _
  | pqTakePendingOutbound => exact wired_handing wired_pqTakePendingOutbound _
  | pqRatchetRespond frame rnd => exact wired_handing (wired_guarded _ _ _) _
  | pqRatchetBind frame seed => exact wired_handing (wired_guarded _ _ _) _
  | pqRekeyRespond frame seed => exact wired_handing (wired_guarded _ _ _) _
  | pqRekeyApply frame seed => exact wired_handing (wired_guarded _ _ _) _
  | pqBootstrapBegin rotating => exact wired_handing (wired_resending _ _ _) _
  | pqBootstrapEnvelope seed => exact wired_handing (wired_resending _ _ _) _
  | pqBootstrapRespond frame rnd => exact wired_handing (wired_guarded _ _ _) _
  | pqBootstrapBind frame seed => exact wired_handing (wired_guarded _ _ _) _

end

/-!
## A paused receive
-/

theorem triple_unpaused {P : SessionInner M -> Prop} {s₀ : SessionInner M}
    {x : SessionOp M (Option (DecryptResult M))}
    (hx : Op.Returns x fun d => isPaused d = false) :
    Op.Triple P x (fun d s => isPaused d = true -> s = s₀) fun _ _ => True := by
  intro s _
  rcases hrun : x.run s with ⟨r, s'⟩
  cases r with
  | error e => exact True.intro
  | ok d =>
      intro hpaused
      have hnot : isPaused d = false := hx s d (by rw [hrun])
      rw [hpaused] at hnot
      cases hnot

theorem joinStandalone_unpaused (welcome : WelcomeBytes M)
    (establishment : WelcomeEstablishment) :
    Op.Returns (joinStandalone welcome establishment) fun d => isPaused d = false := by
  unfold joinStandalone
  refine Op.Returns.bind (Op.Returns.any _) fun outcome _ => ?_
  refine Op.Returns.bind (Op.Returns.any _) fun s _ => ?_
  split
  · exact Op.Returns.value rfl
  · exact Op.Returns.value rfl

theorem undecided_processStaple (staple : Staple M)
    (approval : Option EstablishmentApproval) (s₀ : SessionInner M) :
    Op.Triple (fun s => s = s₀) (processStaple staple approval)
      (fun outcome s => outcome = none -> s = s₀) fun _ _ => True := by
  have hdecided : forall {γ : Type} (x : SessionOp M γ) (f : γ -> StapleOutcome),
      Op.Triple (fun s => s = s₀) (do let a <- x; pure (some (f a)))
        (fun outcome s => outcome = none -> s = s₀) fun _ _ => True := by
    intro γ x f s _
    rw [Op.run_bind]
    rcases x.run s with ⟨r, s'⟩
    cases r with
    | error e => exact True.intro
    | ok a => exact fun h => nomatch h
  unfold processStaple
  refine Op.Triple.looking Op.Still.state (fun _ _ _ => True.intro) fun s => ?_
  cases staple with
  | badHandoff => exact Op.Triple.fail fun _ _ => True.intro
  | badBind => exact Op.Triple.fail fun _ _ => True.intro
  | handoff envelope welcome =>
      dsimp only
      split
      · split
        · exact Op.Triple.value fun _ hs _ => hs
        · exact hdecided _ id
      · exact hdecided _ fun _ => StapleOutcome.unchanged
  | welcome welcome => exact hdecided _ id
  | bind tMessage pqMessage => exact hdecided _ id
  | commit message => exact hdecided _ id

theorem paused_processIncomingInner (frame : Frame M)
    (approval : Option EstablishmentApproval) (s₀ : SessionInner M) :
    Op.Triple (fun s => s = s₀) (processIncomingInner frame approval)
      (fun d s => isPaused d = true -> s = s₀) fun _ _ => True := by
  unfold processIncomingInner
  refine Op.Triple.looking Op.Still.state (fun _ _ _ => True.intro) fun s => ?_
  refine Op.Triple.looking (Op.Still.ensure _ _) (fun _ _ _ => True.intro) fun _ => ?_
  cases frame with
  | badHandoff => exact Op.Triple.fail fun _ _ => True.intro
  | badMessage => exact Op.Triple.fail fun _ _ => True.intro
  | sideBand leg => exact Op.Triple.fail fun _ _ => True.intro
  | unknown => exact Op.Triple.fail fun _ _ => True.intro
  | welcome welcome => exact triple_unpaused (joinStandalone_unpaused welcome _)
  | handoff envelope welcome =>
      dsimp only
      split
      · apply triple_unpaused
        exact Op.Returns.bind (Op.Returns.any _) fun _ _ => Op.Returns.value rfl
      · split
        · exact Op.Triple.value fun _ hs _ => hs
        · exact triple_unpaused (joinStandalone_unpaused welcome _)
  | message staple proposal app =>
      dsimp only
      unfold processMessage
      refine Op.Triple.looking (Op.Still.ofOption _ _) (fun _ _ _ => True.intro)
        fun appMessage => ?_
      refine Op.Triple.bind (undecided_processStaple staple approval s₀) fun outcome => ?_
      cases outcome with
      | none =>
          cases staple with
          | _ => exact Op.Triple.value fun _ hs _ => hs rfl
      | some outcome =>
          intro u _
          dsimp only
          rw [Op.run_bind]
          rcases hrun : (processMessageBody outcome proposal appMessage).run u with ⟨r, v⟩
          cases r with
          | error e => exact True.intro
          | ok result =>
              intro hpaused
              rw [isPaused_processMessageBody hrun] at hpaused
              cases hpaused
  | preEstablishment app =>
      apply triple_unpaused
      refine Op.Returns.bind (Op.Returns.any _) fun appMessage _ => ?_
      refine Op.Returns.bind (Op.Returns.any _) fun received _ => ?_
      exact Op.Returns.value rfl

/-!
## The session beside its blobs
-/

/-- The blobs agree behind a Checkpoint, and while a sink is installed the session
agrees with them. -/
structure Agreeing (t : TwoMlsPqSession M) : Prop where
  pushed : t.pushed ≠ [] -> exists epochs, Agrees epochs t.pushed
  current : t.sinkInstalled = true -> Agrees t.inner.pqEpochs t.pushed

theorem Agreeing.fresh (s : SessionInner M) : Agreeing (TwoMlsPqSession.fresh s) where
  pushed := fun h => absurd rfl h
  current := fun h => nomatch h

theorem Agreeing.ofCurrent {t : TwoMlsPqSession M}
    (h : Agrees t.inner.pqEpochs t.pushed) : Agreeing t where
  pushed := fun _ => ⟨_, h⟩
  current := fun _ => h

/-- Without a sink the record may become any. -/
theorem Agreeing.unplugged {t t' : TwoMlsPqSession M} (h : Agreeing t)
    (hpushed : t'.pushed = t.pushed) (hsink : t'.sinkInstalled = false) :
    Agreeing t' where
  pushed := by
    rw [hpushed]
    exact h.pushed
  current := fun h' => by
    rw [hsink] at h'
    cases h'

theorem Agreeing.silent {t t' : TwoMlsPqSession M} (h : Agreeing t)
    (hpushed : t'.pushed = t.pushed) (hsink : t'.sinkInstalled = t.sinkInstalled)
    (hepochs : t'.inner.pqEpochs = t.inner.pqEpochs) : Agreeing t' where
  pushed := by
    rw [hpushed]
    exact h.pushed
  current := by
    rw [hpushed, hsink, hepochs]
    exact h.current

theorem Agreeing.restarted {t : TwoMlsPqSession M} (h : Agreeing t) :
    Agreeing t.restarted := by
  unfold TwoMlsPqSession.restarted
  split
  · exact h.unplugged rfl rfl
  · exact h

theorem goes_pqEpochs {A : Event M -> Prop} {s s' : SessionInner M}
    (hA : forall e, A e -> e.KeepsPqEpochs) (hgoes : Goes A s s') :
    s'.pqEpochs = s.pqEpochs :=
  Prod.ext (epoch_path (h := .sendPq) hA rfl hgoes)
    (epoch_path (h := .recvPq) hA rfl hgoes)

theorem goes_quietly {s s' : SessionInner M} (hgoes : Goes quietEvents s s') (h : Half) :
    s'.epoch h = s.epoch h := by
  refine Path.invariant (I := fun c => c.epoch h = s.core.epoch h) ?_ hgoes rfl
  intro e c c' he hstep hI
  cases hstep with
  | quiet hq => exact ((hq.1 h).epochs).trans hI
  | _ => exact he.elim

section

variable (L : Lawful M)

include L

theorem encodeBlob_goes (kind : BlobKind) (s : SessionInner M) :
    Goes quietEvents s ((encodeBlob kind).run s).2 :=
  (via_encodeBlob L (A := quietEvents) (p := fun _ => True) True.intro
    (Stable.const True) kind).goes True.intro

theorem encodeBlob_epoch (kind : BlobKind) (s : SessionInner M) (h : Half) :
    ((encodeBlob kind).run s).2.epoch h = s.epoch h :=
  goes_quietly (encodeBlob_goes L kind s) h

theorem encodeBlob_pqEpochs (kind : BlobKind) (s : SessionInner M) :
    ((encodeBlob kind).run s).2.pqEpochs = s.pqEpochs :=
  Prod.ext (encodeBlob_epoch L kind s .sendPq) (encodeBlob_epoch L kind s .recvPq)

theorem Agreeing.reopened {t : TwoMlsPqSession M} (h : Agreeing t) :
    Agreeing t.reopened := by
  have hepochs := encodeBlob_pqEpochs L .checkpoint t.inner
  unfold TwoMlsPqSession.reopened
  rcases hrun : (encodeBlob .checkpoint).run t.inner with ⟨r, s⟩
  rw [hrun] at hepochs
  cases r with
  | error e => exact h.silent rfl rfl hepochs
  | ok a =>
      dsimp only
      split
      · exact h.unplugged rfl rfl
      · exact h.silent rfl rfl hepochs

omit L in
theorem Agreeing.advance {A : Event M -> Prop} {t t' : TwoMlsPqSession M}
    (h : Agreeing t) (hA : forall e, A e -> e.KeepsPqEpochs) (hadvances : Advances A t t')
    (hwired : Wired t.sinkInstalled t.pushed t') : Agreeing t' := by
  rcases hadvances with ⟨hgoes, new, hpushed, hnew⟩
  have hepochs := goes_pqEpochs hA hgoes
  cases hsink : t.sinkInstalled with
  | false =>
      rw [hsink] at hwired
      exact h.silent (hwired.2 rfl) (hwired.1.trans hsink.symm) hepochs
  | true =>
      apply Agreeing.ofCurrent
      rw [hepochs, hpushed]
      refine (h.current hsink).append ?_
      intro p hp
      rcases hnew p hp with ⟨c, hpath, harchived⟩
      unfold Archive.manifest
      rw [harchived.sendPqEpoch, harchived.recvPqEpoch, epoch_path hA rfl hpath,
        epoch_path hA rfl hpath]
      rfl

section

variable (T : Dependable M)

include T

theorem encodeAndPush_manifest (kind : BlobKind) {t : TwoMlsPqSession M}
    (hsink : t.sinkInstalled = true) (hsend : HoldsSend t.inner) :
    exists p, p.kind = kind ∧ p.archive.manifest = t.inner.pqEpochs ∧
      ((encodeAndPush kind).run t).2.pushed = t.pushed ++ [p] ∧
        ((encodeAndPush kind).run t).2.inner.pqEpochs = t.inner.pqEpochs := by
  rcases (completes_encodeBlob T kind).result hsend with ⟨a, hencoded, _⟩
  have hrun : (encodeBlob kind).run t.inner =
      (.ok a, ((encodeBlob kind).run t.inner).2) := Prod.ext hencoded rfl
  have hpictures := encodeBlob_pictures hrun
  have hepochs := encodeBlob_pqEpochs L kind t.inner
  have hpushes : (encodeAndPush kind).run t =
      (.ok (), push kind a { t with inner := ((encodeBlob kind).run t.inner).2 }) := by
    unfold encodeAndPush
    rw [Op.run_bind_ok (Op.run_state t), if_pos hsink, Op.run_bind]
    unfold locked
    rw [Op.run_ofResult, hrun]
    rfl
  rw [hpushes]
  refine ⟨_, rfl, ?_, rfl, hepochs⟩
  rw [<- hepochs]
  exact Prod.ext hpictures.sendPqEpoch hpictures.recvPqEpoch

omit L T in
theorem encodeAndPush_inner (kind : BlobKind) {t : TwoMlsPqSession M}
    (hsink : t.sinkInstalled = true) :
    ((encodeAndPush kind).run t).2.inner = ((encodeBlob kind).run t.inner).2 := by
  unfold encodeAndPush
  rw [Op.run_bind_ok (Op.run_state t), if_pos hsink, Op.run_bind]
  unfold locked
  rw [Op.run_ofResult]
  rcases (encodeBlob kind).run t.inner with ⟨r, s⟩
  cases r with
  | ok a => rfl
  | error e => rfl

structure Agreeing.Ready (kind : BlobKind) (t : TwoMlsPqSession M) : Prop where
  pushed : t.pushed ≠ [] -> exists epochs, Agrees epochs t.pushed
  current : t.sinkInstalled = true -> kind = .core -> Agrees t.inner.pqEpochs t.pushed

theorem Agreeing.encoded {kind : BlobKind} {t : TwoMlsPqSession M}
    (h : Agreeing.Ready kind t)
    (hsend : HoldsSend ((encodeAndPush kind).run t).2.inner) :
    Agreeing ((encodeAndPush kind).run t).2 := by
  cases hsink : t.sinkInstalled with
  | false =>
      rw [encodeAndPush_silent kind hsink]
      exact
        { pushed := h.pushed
          current := fun h' => by
            rw [hsink] at h'
            cases h' }
  | true =>
      have hbefore : HoldsSend t.inner := by
        rw [encodeAndPush_inner kind hsink] at hsend
        exact (isSome_ofEpoch (encodeBlob_epoch L kind t.inner .sendClassical)).symm.trans
          hsend
      rcases encodeAndPush_manifest L T kind hsink hbefore with
        ⟨p, hkind, hmanifest, hpushed, hepochs⟩
      apply Agreeing.ofCurrent
      rw [hpushed, hepochs]
      cases kind with
      | checkpoint => exact Agrees.checkpoint hkind hmanifest
      | core =>
          refine (h.current hsink rfl).append ?_
          intro q hq
          rw [List.mem_singleton.mp hq]
          exact hmanifest

theorem Agreeing.mutated {t : TwoMlsPqSession M} (h : Agreeing t)
    (hseq : t.inner.stateSeq < maxSeq) (x : SessionOp M α)
    (hsend : HoldsSend ((mutateAndPersist .checkpoint x).run t).2.inner) :
    Agreeing ((mutateAndPersist .checkpoint x).run t).2 := by
  rw [run_mutateAndPersist_state hseq] at hsend ⊢
  exact Agreeing.encoded L T
    { pushed := h.pushed
      current := fun _ hkind => nomatch hkind } hsend

theorem Agreeing.guarded {t : TwoMlsPqSession M} (h : Agreeing t)
    (hseq : t.inner.stateSeq < maxSeq) {guard : SessionOp M α} (hguard : Op.Still guard)
    (body : α -> SessionOp M β) (frames : β -> List (Frame M))
    (hsend : HoldsSend ((handing (do
      let a <- locked guard
      mutateAndPersist .checkpoint (body a)) frames).run t).2.inner) :
    Agreeing ((handing (do
      let a <- locked guard
      mutateAndPersist .checkpoint (body a)) frames).run t).2 := by
  unfold handing at hsend ⊢
  rw [Op.run_bind_still fun _ => Op.Still.value _] at hsend ⊢
  rcases hrun : guard.run t.inner with ⟨r, s⟩
  have hsame : s = t.inner := by
    have hstill := hguard t.inner
    rw [hrun] at hstill
    exact hstill
  subst hsame
  have hlocked : (locked guard).run t = (r, t) := by
    unfold locked
    rw [Op.run_ofResult, hrun]
  cases r with
  | error e =>
      rw [Op.run_bind_error hlocked]
      exact h
  | ok a =>
      rw [Op.run_bind_ok hlocked] at hsend ⊢
      exact h.mutated L T hseq (body a) hsend

theorem Agreeing.persisted {kind : BlobKind} {t : TwoMlsPqSession M}
    (h : Agreeing.Ready kind t)
    (hseq : ((persistAfter kind).run t).2.inner.stateSeq < maxSeq)
    (hsend : HoldsSend ((persistAfter kind).run t).2.inner) :
    Agreeing ((persistAfter kind).run t).2 := by
  have hbefore : t.inner.stateSeq < maxSeq := by
    by_contra hnot
    have hrun : ((persistAfter kind).run t).2 = t := by
      unfold persistAfter
      rw [Op.run_bind_ok (run_bumpSeq_exhausted hnot)]
      rfl
    rw [hrun] at hseq
    exact hnot hseq
  have hrun : ((persistAfter kind).run t).2 = ((encodeAndPush kind).run (bumped t)).2 := by
    unfold persistAfter
    rw [Op.run_bind_ok (run_bumpSeq_lt hbefore), if_pos rfl,
      Op.run_bind_still fun _ => Op.Still.value _, Op.run_attempt]
  rw [hrun] at hsend ⊢
  exact Agreeing.encoded L T { pushed := h.pushed, current := h.current } hsend

theorem Agreeing.installs {t : TwoMlsPqSession M} (h : Agreeing t)
    (hsend : HoldsSend ((installSink (M := M)).run t).2.inner) :
    Agreeing ((installSink (M := M)).run t).2 := by
  unfold installSink at hsend ⊢
  rw [Op.run_bind_ok (Op.run_state t)] at hsend ⊢
  cases hsink : t.sinkInstalled with
  | true => exact h
  | false =>
      rw [hsink] at hsend
      exact Agreeing.encoded L T
        (t := { t with sinkInstalled := true })
        { pushed := h.pushed
          current := fun _ hkind => nomatch hkind } hsend

theorem Agreeing.received {t : TwoMlsPqSession M} (h : Agreeing t)
    (frame : Frame M) (approval : Option EstablishmentApproval)
    (hseq : ((processIncomingWith frame approval).run t).2.inner.stateSeq < maxSeq)
    (hfails : t.sinkInstalled = true ->
      forall e, ((processIncomingWith frame approval).run t).1 = .error e ->
        ((processIncomingWith frame approval).run t).2.inner.pqEpochs =
          t.inner.pqEpochs)
    (hsend : HoldsSend ((processIncomingWith frame approval).run t).2.inner) :
    Agreeing ((processIncomingWith frame approval).run t).2 := by
  rcases hrun : (processIncomingInner frame approval).run t.inner with ⟨r, u⟩
  have hpaused := paused_processIncomingInner frame approval t.inner t.inner rfl
  rw [hrun] at hpaused
  rcases run_processIncomingWith frame approval t with ⟨herror, hpause, _⟩
  cases r with
  | error e =>
      have hfinal := herror e u hrun
      rw [hfinal] at hfails ⊢
      cases hsink : t.sinkInstalled with
      | false => exact h.unplugged rfl hsink
      | true => exact h.silent rfl rfl (hfails hsink e rfl)
  | ok d =>
      cases hd : isPaused d with
      | true =>
          have hsame : u = t.inner := hpaused hd
          rw [hpause d u hrun hd]
          exact h.silent rfl rfl (congrArg SessionInner.pqEpochs hsame)
      | false =>
          have hpersists : ((processIncomingWith frame approval).run t).2 =
              ((persistAfter (if u.pqEpochs = t.inner.pqEpochs then .core
                else .checkpoint)).run (t.withInner u)).2 := by
            rw [run_processIncomingWith_persists hrun hd]
          rw [hpersists] at hseq hsend ⊢
          refine Agreeing.persisted L T ?_ hseq hsend
          refine { pushed := h.pushed, current := fun hsink hkind => ?_ }
          have hsame : u.pqEpochs = t.inner.pqEpochs := by
            by_contra hnot
            rw [if_neg hnot] at hkind
            cases hkind
          change Agrees u.pqEpochs t.pushed
          rw [hsame]
          exact h.current hsink

/-- The counter is not exhausted around the action, and a receive does not fail
after moving a post-quantum epoch. -/
def Sparing (t : TwoMlsPqSession M) (a : LifeAction M) : Prop :=
  t.inner.stateSeq < maxSeq ∧ (t.live a).inner.stateSeq < maxSeq ∧
    forall frame approval, a = .host (.call (.processIncoming frame approval)) ->
      t.sinkInstalled = true ->
        forall e, ((processIncomingWith frame approval).run t).1 = .error e ->
          (t.live a).inner.pqEpochs = t.inner.pqEpochs

theorem Agreeing.called {t : TwoMlsPqSession M} (h : Agreeing t)
    (happroved : Approved t.inner.core) {call : Call M}
    (hsparing : Sparing t (.host (.call call)))
    (hsend : HoldsSend (call.run.run t).2.inner) : Agreeing (call.run.run t).2 := by
  rcases hsparing with ⟨hbefore, hafter, hfails⟩
  have hmoves : call.MayMovePq -> Agreeing (call.run.run t).2 := by
    intro hcall
    cases call with
    | processIncoming frame approval =>
        have hstate : ((Call.processIncoming frame approval).run.run t).2 =
            ((processIncomingWith frame approval).run t).2 := handing_run t
        have hfailed := hfails frame approval rfl
        change ((Call.processIncoming frame approval).run.run t).2.inner.stateSeq < maxSeq
          at hafter
        change _ -> forall e, _ ->
          ((Call.processIncoming frame approval).run.run t).2.inner.pqEpochs =
            t.inner.pqEpochs at hfailed
        rw [hstate] at hafter hfailed hsend ⊢
        exact h.received L T frame approval hafter hfailed hsend
    | pqRatchetBind frame seed =>
        exact h.guarded L T hbefore (still_ratchetBindGuard frame) _ _ hsend
    | pqRekeyRespond frame seed =>
        exact h.guarded L T hbefore (still_rekeyRespondGuard frame) _ _ hsend
    | pqRekeyApply frame seed =>
        exact h.guarded L T hbefore (still_rekeyApplyGuard frame) _ _ hsend
    | pqBootstrapRespond frame rnd =>
        exact h.guarded L T hbefore (still_bootstrapRespondGuard frame) _ _ hsend
    | pqBootstrapBind frame seed =>
        exact h.guarded L T hbefore (still_bootstrapBindGuard frame) _ _ hsend
    | _ => exact hcall.elim
  by_cases hcall : call.MayMovePq
  · exact hmoves hcall
  · by_cases hinstall : call = .installSink
    · subst hinstall
      change HoldsSend ((handing installSink fun _ => []).run t).2.inner at hsend
      change Agreeing ((handing installSink fun _ => []).run t).2
      rw [handing_run] at hsend ⊢
      exact h.installs L T hsend
    · have hwired : Wired t.sinkInstalled t.pushed (call.run.run t).2 :=
        wired_call call hinstall t ⟨rfl, fun _ => rfl⟩
      exact h.advance (fun e he => events_keepPqEpochs hcall he)
        (call_advances L call t happroved) hwired

/-- As long as the counter lasts and no receive fails after moving a post-quantum
epoch, the pushed blobs can be restored at every moment. -/
theorem restores_at_every_moment {s : SessionInner M} (born : Born s)
    {t : TwoMlsPqSession M}
    (life : Run TwoMlsPqSession.live Sparing (TwoMlsPqSession.fresh s) t)
    (unexhausted : Unexhausted t.pushed) (pushed : t.pushed ≠ []) :
    exists r, restore t.pushed = .ok r := by
  have hlasting := lasting_sound T L
  have hkept : Carried (Conserved (Sound false) (Photo (Sound false))) t ∧
      Durable Approved t ∧ Agreeing t := by
    refine life.invariant
      (I := fun t => Carried (Conserved (Sound false) (Photo (Sound false))) t ∧
        Durable Approved t ∧ Agreeing t) ?_ ?_
    · intro t a hI ha
      rcases hI with ⟨hsound, happroved, hagreeing⟩
      have hafter := hlasting.carries.live (fun _ => hlasting.restarted)
        (fun _ => hlasting.reopened) a hsound
      refine ⟨hafter, approved_live L happroved, ?_⟩
      cases a with
      | reopen => exact hagreeing.reopened L
      | host a =>
          cases a with
          | restart => exact hagreeing.restarted
          | call call =>
              exact hagreeing.called L T happroved.now ha hafter.1.sendGroup
    · exact ⟨⟨born.sound T, fun _ hp => absurd hp List.not_mem_nil⟩,
        Durable.fresh (approved_unused (born.unused L)), Agreeing.fresh s⟩
  have hlife : Run TwoMlsPqSession.live (fun _ _ => True) (TwoMlsPqSession.fresh s) t :=
    life.mono fun _ _ _ => True.intro
  rcases journaled_life L hlife unexhausted with ⟨shown, hrecorded⟩
  rcases hkept.2.2.pushed pushed with ⟨epochs, hagrees⟩
  exact hrecorded.restores T L hkept.1.2 (hrecorded.agreeing hagrees)

end

end

end

namespace ReferencePair

def spares (w : World Reference.mls) : Action Reference.mls -> Bool
  | .call .left _ => true
  | .call .right call =>
      let t := w.session .right
      let t' := (call.run.run t).2
      decide (t.inner.stateSeq < maxSeq ∧ t'.inner.stateSeq < maxSeq) &&
        match call with
        | .processIncoming frame approval =>
            ((processIncomingWith frame approval).run t).1.isOk ||
              decide (t'.inner.pqEpochs = t.inner.pqEpochs)
        | _ => true
  | .restore side => side != .right

theorem spares_sparing {w : World Reference.mls} {call : Call Reference.mls}
    (h : spares w (.call .right call) = true) :
    Sparing (w.session .right) (.host (.call call)) := by
  unfold spares at h
  rcases (Bool.and_eq_true _ _).mp h with ⟨hcounter, hreceive⟩
  rcases of_decide_eq_true hcounter with ⟨hbefore, hafter⟩
  refine ⟨hbefore, hafter, ?_⟩
  rintro frame approval hcall - e hfailed
  cases hcall
  dsimp only at hreceive
  rw [hfailed] at hreceive
  rcases (Bool.or_eq_true _ _).mp hreceive with hok | hsame
  · cases hok
  · exact of_decide_eq_true hsame

def bootstrappedSession : TwoMlsPqSession Reference.mls :=
  (world.enact (moves bootstrap)).session .right

set_option maxRecDepth 4000 in
theorem bootstrap_spares : world.passes spares (moves bootstrap) = true := by
  decide +kernel

theorem bootstrapped_run :
    Run TwoMlsPqSession.live Sparing (TwoMlsPqSession.fresh acceptor) bootstrappedSession := by
  have hworld := World.run_enact (fun _ _ h => h) bootstrap_spares
  have hhosted : Run TwoMlsPqSession.host (fun t a => Sparing t (.host a))
      (world.session .right) bootstrappedSession := by
    refine World.run_host .right (fun w call h => spares_sparing h) ?_ hworld
    intro w h
    cases h
  exact hhosted.map LifeAction.host (fun _ _ => rfl) fun _ _ ha => ha

theorem bootstrapped_states :
    bootstrappedSession.pushed.all (fun p => decide (p.seq < maxSeq)) = true ∧
      bootstrappedSession.pushed.length ≠ 0 ∧
        bootstrappedSession.inner.pqEpochs ≠ acceptor.pqEpochs := by
  decide +kernel

end ReferencePair

/-- The acceptor can be restored behind the round that moved its post-quantum epochs. -/
theorem persisted_acceptor_restores :
    exists r, restore ReferencePair.bootstrappedSession.pushed = .ok r := by
  have hstates := ReferencePair.bootstrapped_states
  apply restores_at_every_moment Reference.lawful Reference.dependable
    ReferencePair.acceptor_born ReferencePair.bootstrapped_run
  · intro p hp
    exact of_decide_eq_true (List.all_eq_true.mp hstates.1 p hp)
  · intro hnone
    exact hstates.2.1 (congrArg List.length hnone)

end Session
end TwoMlsPq
