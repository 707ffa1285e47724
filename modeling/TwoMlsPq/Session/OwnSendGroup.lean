import TwoMlsPq.Session.Honest

/-!
# Only our own commits move our own send group

The peer is a member of our send group, so it can make a commit there, and the
proposal section of its frames is handed to that group.  The receive door and
the approval of an offer apply whatever the library accepts and only then look
at what it was.  As long as no commit for the group's current epoch stands in
that section, the group is where our own commits have put it, whatever else an
arbitrary peer delivers.
-/

namespace TwoMlsPq
namespace Session

open Foundation Apq

section

variable {M : MlsRs}

/-!
## The condition
-/

/-- The message is not a commit for our send group at its current epoch. -/
def NoCommitFor (c : Core M) (m : M.Message) : Prop :=
  forall g, c.half .sendClassical = some g ->
    (M.description m).contentType = some .commit ->
      M.messageGroupId m = some (M.groupId g) ->
        M.messageEpoch m ≠ some (M.currentEpoch g)

/-- What the call hands to our send group is no commit for it. -/
def Call.OffersNoCommit (c : Core M) : Call M -> Prop
  | .processIncoming f _ => forall m, f.feeds .sendClassical m -> NoCommitFor c m
  | .queueProposal _ =>
      forall o m, c.offered = some o -> o.proposal.parsed = some m ->
        NoCommitFor c m
  | _ => True

/-- The one call with a commit path of its own on the send group. -/
def Call.Prepares : Call M -> Prop
  | .prepareToEncrypt _ _ => True
  | _ => False

theorem NoCommitFor.quiet {c c' : Core M} {m : M.Message} (h : NoCommitFor c m)
    (hquiet : HalfQuiet (c.half .sendClassical) (c'.half .sendClassical)) :
    NoCommitFor c' m := by
  intro g' held' hkind hgroup hepoch
  have hback := hquiet.symm
  rw [held'] at hback
  have hsame := hback.some_left
  rcases hsame with ⟨g, held, hundisturbed⟩
  apply h g held hkind
  · rw [hundisturbed.groupId]
    exact hgroup
  · rw [hundisturbed.epoch]
    exact hepoch

theorem Frame.Honest.offersNoCommit {f : Frame M} (h : f.Honest) (c : Core M)
    (approval : Option EstablishmentApproval) :
    (Call.processIncoming f approval).OffersNoCommit c := by
  intro m hfeeds g held hkind
  have hproposal : (M.description m).contentType = some .proposal := h m hfeeds
  rw [hkind] at hproposal
  cases hproposal

/-!
## Steps
-/

/-- One commit of our own, or nothing that can be observed. -/
def OwnMove (g g' : M.Group) : Prop :=
  Undisturbed g g' ∨ exists identity, OwnCommit identity g g'

def KeepsSend (c : Core M) : Event M -> Prop
  | .peerCommit h m => h = .sendClassical -> NoCommitFor c m
  | .ownCommit h _ _ => h ≠ .sendClassical
  | _ => True

theorem sendHalf_step {c₀ c c' : Core M} {e : Event M} (he : KeepsSend c₀ e)
    (hstep : Step e c c')
    (hc : HalfQuiet (c₀.half .sendClassical) (c.half .sendClassical)) :
    HalfQuiet (c₀.half .sendClassical) (c'.half .sendClassical) := by
  have hcases := hstep.half_cases .sendClassical
  rcases hcases with hquiet | ⟨g', held', hhalf⟩
  · exact hc.trans hquiet
  · exfalso
    cases hhalf with
    | peerCommit held idle kind applied =>
        have hno := (he rfl).quiet hc
        exact hno _ held kind applied.messageGroupId applied.messageEpoch
    | ownCommit send held discharged handoff applied => exact he rfl
    | propose held introduces proposed => exact introduces
    | joinRecv recv missing joined => rcases recv with h | h <;> cases h

theorem sendHalf_path {c₀ c : Core M} {A : Event M -> Prop}
    (hA : forall e, A e -> KeepsSend c₀ e) (hpath : Path A c₀ c) :
    HalfQuiet (c₀.half .sendClassical) (c.half .sendClassical) :=
  hpath.invariant
    (I := fun c => HalfQuiet (c₀.half .sendClassical) (c.half .sendClassical))
    (fun e _ _ he hstep hc => sendHalf_step (hA e he) hstep hc) (HalfQuiet.refl _)

theorem keepsSend_call {c : Core M} {call : Call M} {e : Event M}
    (hguard : call.OffersNoCommit c)
    (hcall : ¬ call.Prepares) (he : call.events c e) :
    KeepsSend c e := by
  by_cases hmessages : call.Messages
  · cases call with
    | processIncoming f approval =>
        cases e with
        | peerCommit h m =>
            rintro rfl
            exact hguard m he
        | ownCommit h fold identity => exact he.elim
        | _ => exact True.intro
    | queueProposal digest =>
        cases e with
        | peerCommit h m =>
            rcases he with ⟨_, offer, hoffer, hparsed⟩
            exact fun _ => hguard offer m hoffer hparsed
        | ownCommit h fold identity => exact he.elim
        | _ => exact True.intro
    | prepareToEncrypt proposing rnd => exact (hcall True.intro).elim
    | _ => exact hmessages.elim
  · have hbeside := events_beside hmessages he
    cases e with
    | peerCommit h m => exact hbeside.elim
    | ownCommit h fold identity =>
        rintro rfl
        cases hbeside.1
    | _ => exact True.intro

/-- What `prepare_to_encrypt` does to the send group is a chain of commits of
our own. -/
theorem ownMoves_prepare {queued : Option (PeerProposal M)} {c c' : Core M}
    {g : M.Group} (hpath : Path (prepareEvents queued) c c')
    (held : c.half .sendClassical = some g) :
    exists g', c'.half .sendClassical = some g' ∧
      Relation.ReflTransGen OwnMove g g' := by
  induction hpath with
  | refl => exact ⟨g, held, Relation.ReflTransGen.refl⟩
  | tail hpath hlast ih =>
      rcases ih with ⟨g₁, held₁, hmoves⟩
      rcases hlast with ⟨e, he, hstep⟩
      rcases hstep.half_cases .sendClassical with hquiet | ⟨g', held', hhalf⟩
      · rw [held₁] at hquiet
        rcases hquiet.some_left with ⟨g', held', hsame⟩
        exact ⟨g', held', hmoves.tail (Or.inl hsame)⟩
      · refine ⟨g', held', hmoves.tail (Or.inr ?_)⟩
        cases hhalf with
        | peerCommit held idle kind applied => exact he.elim
        | ownCommit send held discharged handoff applied =>
            rw [held₁] at held
            cases held
            exact ⟨_, applied⟩
        | propose held introduces proposed => exact introduces.elim
        | joinRecv recv missing joined => exact he.elim

/-!
## Runs
-/

/-- In every state a session can reach against anybody, a call that hands our
send group no commit for its current epoch leaves its epoch, roster and leaves
alone, whether it succeeds or fails.  Only `prepare_to_encrypt` moves the group,
and only by commits of our own. -/
theorem send_group_moved_only_by_own_commits (L : Lawful M) {s : SessionInner M}
    (born : Born s) {t : TwoMlsPqSession M}
    (run : Run TwoMlsPqSession.host (fun _ _ => True) (TwoMlsPqSession.fresh s) t)
    (call : Call M) (guarded : call.OffersNoCommit t.inner.core) :
    (¬ call.Prepares ->
      HalfQuiet (t.inner.core.half .sendClassical)
        ((call.run.run t).2.inner.core.half .sendClassical)) ∧
    (call.Prepares ->
      forall g, t.inner.core.half .sendClassical = some g ->
        exists g', (call.run.run t).2.inner.core.half .sendClassical = some g' ∧
          Relation.ReflTransGen OwnMove g g') := by
  have happroved : Durable Approved t :=
    run.invariant (fun _ _ h _ => approved_host L h)
      (Durable.fresh (approved_unused (born.unused L)))
  have hpath := call_goes L call t happroved.now
  constructor
  · intro hcall
    exact sendHalf_path (fun e he => keepsSend_call guarded hcall he) hpath
  · intro hcall g held
    cases call with
    | prepareToEncrypt proposing rnd => exact ownMoves_prepare hpath held
    | _ => exact hcall.elim

end

/-!
## A commit in the proposal section
-/

namespace ReferencePair

def firstFrame : Frame Reference.mls :=
  ((world.play (send .right 3000)).sent .right).headD .unknown

theorem firstFrame_sent :
    firstFrame ∈ (world.play (send .right 3000)).sent .right := by
  have hsent :
      ((world.play (send .right 3000)).sent .right).isEmpty = false := by
    decide +kernel
  unfold firstFrame
  cases hframes : (world.play (send .right 3000)).sent .right with
  | nil =>
      rw [hframes] at hsent
      cases hsent
  | cons f rest => exact List.mem_cons_self

theorem firstFrame_honest : firstFrame.Honest := by
  have hrun : Run World.act World.Delivers world
      (world.play (send .right 3000)) := by
    apply World.run_play
    intro move hmem w a ha
    apply Move.fair_delivers _ ha
    revert move
    simp [send, Move.Fair, Call.delivered]
  have hworld : HonestWorld (world.play (send .right 3000)) :=
    hrun.invariant (fun _ _ h ha => honestWorld_act Reference.lawful h ha)
      (honestWorld_initial Reference.lawful established)
  exact hworld.frames .right firstFrame firstFrame_sent

def foreignCommit : Blob Reference.mls :=
  match acceptor.half .recvClassical with
  | none => Blob.empty
  | some g =>
      match
        (Reference.buildCommit
          { auth := AuthCore.seeded [0xB0], psk := fun _ => none }
          { addMember := none
            psks := []
            customProposal := none
            newSigningIdentity := none }
          7000 g).1
      with
      | .ok out => blob out.commitMessage
      | .error _ => Blob.empty

def forgedFrame : Frame Reference.mls :=
  match (world.play (send .right 3000)).sent .right with
  | [.message st _ app] => .message st (some ([0xB0], foreignCommit)) app
  | _ => .unknown

end ReferencePair

set_option maxRecDepth 4000 in
/-- The initiator takes the acceptor's first frame, joins the acceptor's group
and keeps its own. -/
theorem send_group_kept_by_first_frame :
    ((processIncomingWith ReferencePair.firstFrame none).run
        (TwoMlsPqSession.fresh ReferencePair.initiator)).2.inner.epoch
          .recvClassical = some 1 ∧
      HalfQuiet
        ((TwoMlsPqSession.fresh ReferencePair.initiator).inner.core.half
          .sendClassical)
        (((Call.processIncoming ReferencePair.firstFrame none).run.run
          (TwoMlsPqSession.fresh ReferencePair.initiator)).2.inner.core.half
            .sendClassical) := by
  constructor
  · decide +kernel
  · have hguarded :=
      ReferencePair.firstFrame_honest.offersNoCommit
        (TwoMlsPqSession.fresh ReferencePair.initiator).inner.core none
    have hkept :=
      send_group_moved_only_by_own_commits Reference.lawful
        ReferencePair.established.born.1
        (t := TwoMlsPqSession.fresh ReferencePair.initiator) Run.refl
        (Call.processIncoming ReferencePair.firstFrame none) hguarded
    exact hkept.1 fun h => h

/-- The receive door applies a commit it finds in the proposal section: the
initiator's send group enters an epoch the initiator never committed. -/
theorem forged_proposal_moves_send_group :
    ¬ forall (s : SessionInner Reference.mls) (t : TwoMlsPqSession Reference.mls)
        (f : Frame Reference.mls),
      Born s ->
        Run TwoMlsPqSession.host (fun _ _ => True) (TwoMlsPqSession.fresh s) t ->
          ((processIncoming f).run t).2.inner.epoch .sendClassical =
            t.inner.epoch .sendClassical := by
  intro h
  have hkept :=
    h ReferencePair.initiator (TwoMlsPqSession.fresh ReferencePair.initiator)
      ReferencePair.forgedFrame ReferencePair.established.born.1 Run.refl
  have hbefore :
      (TwoMlsPqSession.fresh ReferencePair.initiator).inner.epoch .sendClassical =
        some 1 := by
    decide +kernel
  have hafter :
      ((processIncoming ReferencePair.forgedFrame).run
        (TwoMlsPqSession.fresh ReferencePair.initiator)).2.inner.epoch
          .sendClassical = some 2 := by
    decide +kernel
  rw [hbefore, hafter] at hkept
  cases hkept

end Session
end TwoMlsPq
