import TwoMlsPq.Session.Proposing

/-!
# The tally of approvals

`queue_proposal` approves the credential that an offer of the peer brings, and the
commit that folds the offer settles the approval.  An earlier approval is taken back
only by a commit that makes another credential canonical, so the tally is at most
the credential in the queue exactly in the states given here.
-/

namespace TwoMlsPq

namespace Session

open Foundation Apq

section

variable {M : MlsRs} {α : Type}

/-!
## What one call does to the tally
-/

def approvals (s : SessionInner M) : List Bytes :=
  s.services.auth.theirs.authorizedNext

def Approves (s₀ s : SessionInner M) : Prop :=
  exists offer,
    s₀.msg.offeredProposal = some offer ∧ s.msg.queuedProposal = some offer ∧
      s.services.auth.theirs = s₀.services.auth.theirs.authorize offer.proposing

theorem triple_queueProposalInner (s₀ : SessionInner M) (digest : Bytes) :
    Op.Triple (fun s => s = s₀) (queueProposalInner digest) (fun _ => Approves s₀)
      fun _ _ => True := by
  unfold queueProposalInner
  refine Op.Triple.reading fun s hs => ?_
  subst hs
  cases hoffered : s.msg.offeredProposal with
  | none => exact fun _ _ => True.intro
  | some offer =>
      apply Op.Triple.present
      refine Op.Triple.bind
        (Q := fun _ s' => s'.services.auth.theirs = s.services.auth.theirs) ?_ fun _ => ?_
      · apply Op.Triple.update
        intro s' hs'
        rw [hs']
        rfl
      apply Op.Triple.ite
      · intro _ s' _
        exact True.intro
      · intro _
        refine Op.Triple.bind
          (Q := fun _ s' => s'.services.auth.theirs = s.services.auth.theirs) ?_
          fun validated => ?_
        · intro s' hs'
          have hkept := touches_validateOfferedUpdate offer.proposal offer.proposing s'
            .services (by decide)
          rw [Op.run_attempt]
          exact (congrArg (fun sv : Services => sv.auth.theirs) hkept).trans hs'
        · cases validated with
          | ok _ =>
              apply Op.Triple.update
              intro s' hs'
              refine ⟨offer, hoffered, rfl, ?_⟩
              rw [← hs']
              rfl
          | error e => exact fun _ _ => True.intro

theorem QuietOp.approves {x : SessionOp M α} {W : List Slot} (hx : QuietOp x)
    (htouches : Touches W x) (hmsg : .msg ∉ W) (s₀ : SessionInner M) :
    Op.Keeps (Approves s₀) x := by
  rintro s ⟨offer, hoffered, hqueued, hauth⟩
  refine ⟨offer, hoffered, ?_, ?_⟩
  · rw [show (x.run s).2.msg = s.msg from htouches s .msg hmsg]
    exact hqueued
  · exact (congrArg (fun c => c.auth.theirs) (hx s).2).trans hauth

theorem triple_queueProposal (L : Lawful M) (t : TwoMlsPqSession M)
    (digest : Bytes) :
    Op.Triple (fun t' => t' = t) (queueProposal digest)
      (fun _ t' => Approves t.inner t'.inner) fun _ _ => True := by
  rcases entered_counter t with ⟨n, hentered⟩
  unfold queueProposal
  refine Op.Triple.reading fun t' ht' => ?_
  refine Op.Triple.looking (Op.Still.ensure _ _) (fun _ _ _ => True.intro) fun _ => ?_
  subst ht'
  have hinner := triple_queueProposalInner (entered t') digest
  refine (triple_mutateAndPersist (k := .core) hinner
    (fun _ _ _ => Or.inr fun _ => True.intro)
    (fun _ => (quiet_encodeBlob L .core).approves (touches_encodeBlob .core) (by decide) _)
    fun _ _ hs => hs).post fun _ t'' ht'' => ?_
  rw [hentered] at ht''
  exact ht''

/-!
## What a fold does to the tally
-/

/-- The send group has not moved, or the fold settled the peer's sequence; a commit
that leaves the group without its two members settles nothing. -/
def FoldSettled (s₀ s : SessionInner M) : Prop :=
  HalfQuiet (s₀.half .sendClassical) (s.half .sendClassical) ∨
    s.services.auth.theirs = foldedTheirs s₀.msg.queuedProposal s₀ ∨
    exists g, s.half .sendClassical = some g ∧ (M.roster g).length ≠ 2

theorem FoldSettled.follows {s₀ s s' : SessionInner M} (h : FoldSettled s₀ s)
    (hsend : HalfQuiet (s.half .sendClassical) (s'.half .sendClassical))
    (htheirs : s'.services.auth.theirs = s.services.auth.theirs) :
    FoldSettled s₀ s' := by
  rcases h with hquiet | hsettled | ⟨g, held, hlength⟩
  · exact Or.inl (hquiet.trans hsend)
  · exact Or.inr (Or.inl (htheirs.trans hsettled))
  · rw [held] at hsend
    rcases hsend.some_left with ⟨g', held', same⟩
    exact Or.inr (Or.inr ⟨g', held', by rw [same.roster]; exact hlength⟩)

theorem Uncommitted.foldSettled {s₀ s : SessionInner M} (h : Uncommitted s₀ s) :
    FoldSettled s₀ s :=
  Or.inl h.send

theorem QuietOp.foldSettled {x : SessionOp M α} (hx : QuietOp x)
    (s₀ : SessionInner M) :
    Op.Keeps (FoldSettled s₀) x :=
  fun s hs => hs.follows ((hx s).1 .sendClassical)
    (congrArg (fun c => c.auth.theirs) (hx s).2)

theorem FoldSettled.kept {x : SessionOp M α}
    (hx : forall s, Uncommitted s (x.run s).2) (s₀ : SessionInner M) :
    Op.Keeps (FoldSettled s₀) x :=
  fun s hs => hs.follows (hx s).send (hx s).theirs

theorem triple_ofFoldSettled {x : SessionOp M α} {s₀ : SessionInner M}
    (hx : Op.Keeps (FoldSettled s₀) x) :
    Op.Triple (FoldSettled s₀) x (fun _ => FoldSettled s₀) fun _ => FoldSettled s₀ :=
  Op.Triple.ofKeeps hx

section

variable (L : Lawful M)

include L

theorem foldSettled_commitRound {s₀ : SessionInner M} {g : M.Group}
    (held : s₀.half .sendClassical = some g)
    (happroved : ApprovedProposal s₀.msg.queuedProposal) (seed : M.Seed) :
    Op.Triple (fun s => s = dequeued s₀) (commitRound s₀.msg.queuedProposal seed)
      (fun _ => FoldSettled s₀) fun _ => FoldSettled s₀ := by
  refine ((triple_commitRound L (serves_any M) held (fun _ _ => Or.inl True.intro)
    happroved seed).weaken ?_ ?_).pre ?_
  · exact fun _ s hs => Or.inr (Or.inl hs.theirs)
  · rintro e s (⟨hprepared, -⟩ | ⟨-, hunpaired | hsettled⟩)
    · exact Or.inl hprepared.send
    · exact Or.inr (Or.inr hunpaired)
    · exact Or.inr (Or.inl hsettled)
  · intro s hs
    rw [hs]
    exact untouched_dequeued s₀

theorem foldSettled_prepareToEncryptInner (s₀ : SessionInner M)
    (happroved : ApprovedProposal s₀.msg.queuedProposal) (selected : Option Bytes)
    (rnd : Nat -> M.Seed) :
    Op.Triple (fun s => s = s₀) (prepareToEncryptInner selected rnd)
      (fun _ => FoldSettled s₀) fun _ => FoldSettled s₀ := by
  apply triple_prepareInner
  · exact fun _ _ => (Uncommitted.refl s₀).foldSettled
  · rintro - s rfl
    have hafter := (uncommitted_preparePreEstablishment s selected s
      (Uncommitted.refl s)).foldSettled
    split
    · exact hafter
    · exact hafter
  · intro _ _
    refine (triple_prepareParts (R := FoldSettled s₀) (Q := fun _ => FoldSettled s₀)
      ?_ ?_ ?_).post ?_
    · exact fun _ _ => (uncommitted_dequeued s₀).foldSettled
    · intro g held
      apply Op.Triple.ite
      · exact fun _ => foldSettled_commitRound L held happroved (rnd 0)
      · intro _
        apply Op.Triple.value
        intro s hs
        rw [hs]
        exact (uncommitted_dequeued s₀).foldSettled
    · intro s₁ hs₁ s hs
      have hkeeps := FoldSettled.kept (fun s => uncommitted_stageSelfUpdate s selected rnd
        s (Uncommitted.refl s)) s₀
      exact triple_ofFoldSettled hkeeps s (hs ▸ hs₁)
    · rintro _ s ⟨_, _, hs⟩
      exact hs
  · exact fun _ => triple_ofFoldSettled ((quiet_recordListenRendezvous L).foldSettled s₀)
  · intro _ seed
    exact triple_ofFoldSettled (FoldSettled.kept
      (fun s => uncommitted_rewrapSideBand L s seed s (Uncommitted.refl s)) s₀)

theorem foldSettled_prepareToEncrypt {t : TwoMlsPqSession M}
    (happroved : ApprovedProposal t.inner.msg.queuedProposal) (selected : Option Bytes)
    (rnd : Nat -> M.Seed) :
    FoldSettled t.inner ((prepareToEncrypt selected rnd).run t).2.inner := by
  rcases entered_counter t with ⟨n, hentered⟩
  have hinner := foldSettled_prepareToEncryptInner L (entered t)
    (by rw [hentered]; exact happroved) selected rnd
  have hencode := (quiet_encodeBlob L .core).foldSettled (entered t)
  have hdoor := triple_mutateAndPersist (k := .core) hinner
    (fun _ _ hs => Or.inr fun _ => hs) (fun _ => hencode) fun _ => hencode
  have hsettled : FoldSettled (entered t)
      ((prepareToEncrypt selected rnd).run t).2.inner :=
    hdoor.always (I := fun t' : TwoMlsPqSession M => FoldSettled (entered t) t'.inner) rfl
  rw [hentered] at hsettled
  exact hsettled

end

theorem foldedTheirs_approvals {s : SessionInner M} {q : PeerProposal M}
    (hqueued : s.msg.queuedProposal = some q) :
    (foldedTheirs s.msg.queuedProposal s).authorizedNext = [] ↔
      (approvals s = [] ∨ (q.proposing ≠ s.rotation.theirState.clientId ∧
        s.services.auth.theirs.current ≠ some q.proposing)) := by
  rw [hqueued]
  unfold foldedTheirs approvals
  dsimp only
  split
  next hother =>
    rw [PartySequence.authorizedNext_commit]
    split
    next hcurrent => simp [hcurrent]
    next hcurrent => simp [hother, hcurrent]
  next hsame =>
    constructor
    · exact Or.inl
    · rintro (hempty | ⟨hother, -⟩)
      · exact hempty
      · exact absurd hother hsame

/-!
## Over a whole run
-/

def SingleApproval (c : Core M) : Prop :=
  c.auth.theirs.authorizedNext.length <= 1

theorem Step.approvals {e : Event M} {c c' : Core M} (h : Step e c c')
    (he : forall id, e ≠ .authorizeTheirs id) :
    c'.auth.theirs.authorizedNext = c.auth.theirs.authorizedNext ∨
      c'.auth.theirs.authorizedNext = [] := by
  cases h with
  | quiet hq =>
      left
      rw [hq.2]
  | authorizeTheirs => exact absurd rfl (he _)
  | commitTheirs =>
      change (c.auth.theirs.commit _).authorizedNext = _ ∨
        (c.auth.theirs.commit _).authorizedNext = _
      rw [PartySequence.authorizedNext_commit]
      split
      · exact Or.inl rfl
      · exact Or.inr rfl
  | authMeta same => exact Or.inl same.2.2.2.2
  | _ => exact Or.inl rfl

theorem SingleApproval.step {e : Event M} {c c' : Core M} (h : SingleApproval c)
    (hstep : Step e c c') (he : forall id, e ≠ .authorizeTheirs id) :
    SingleApproval c' := by
  unfold SingleApproval
  rcases hstep.approvals he with hsame | hempty
  · rw [hsame]
    exact h
  · rw [hempty]
    exact Nat.zero_le 1

theorem SingleApproval.stable : Stable (SingleApproval (M := M)) :=
  fun _ _ hq hc => hc.step (Step.quiet hq) nofun

theorem SingleApproval.recovered {c : Core M}
    (h : Recovered (fun _ => SingleApproval) c) :
    SingleApproval c := by
  cases h with
  | checkpoint h => exact h
  | spliced h h' => exact h

theorem SingleApproval.restored {c r : Core M} (h : SingleApproval c)
    (hr : Restored c r) :
    SingleApproval r := by
  unfold SingleApproval
  rw [hr.2]
  exact h

def Call.Queues : Call M -> Prop
  | .queueProposal _ => True
  | _ => False

theorem Call.events_unapproving {call : Call M} (hother : ¬ call.Queues) {c : Core M}
    {e : Event M} (he : call.events c e) (id : Bytes) :
    e ≠ .authorizeTheirs id := by
  rintro rfl
  by_cases hmessages : call.Messages
  · cases call with
    | prepareToEncrypt proposing rnd => exact he
    | processIncoming frame approval => exact he
    | queueProposal digest => exact hother True.intro
    | _ => exact hmessages.elim
  · exact events_beside hmessages he

/-- The offer at hand brings what is approved already. -/
def Reoffers (s : SessionInner M) : Prop :=
  forall id, id ∈ approvals s ->
    exists offer, s.msg.offeredProposal = some offer ∧ offer.proposing = id

/-- The queued proposal brings a credential that is not canonical yet. -/
def FoldsNews (s : SessionInner M) : Prop :=
  forall q, s.msg.queuedProposal = some q ->
    approvals s = [] ∨ (q.proposing ≠ s.rotation.theirState.clientId ∧
      s.services.auth.theirs.current ≠ some q.proposing)

/-- An approval meets no other one, and a fold makes news canonical. -/
def Conforms (t : TwoMlsPqSession M) : LifeAction M -> Prop
  | .host (.call (.queueProposal _)) => Reoffers t.inner
  | .host (.call (.prepareToEncrypt _ _)) => FoldsNews t.inner
  | _ => True

structure Folds (s₀ s : SessionInner M) : Prop where
  queued : s₀.msg.queuedProposal.isSome = true
  moved : SendMoved s₀ s
  paired : forall g, s.half .sendClassical = some g -> (M.roster g).length = 2

/-- The tally after a call: at most the queued credential behind an approval, and
empty behind a fold. -/
def TallyKept (t : TwoMlsPqSession M) : LifeAction M -> Prop
  | .host (.call (.queueProposal digest)) =>
      ((queueProposal digest).run t).1 = .ok () ->
        exists q, ((queueProposal digest).run t).2.inner.msg.queuedProposal = some q ∧
          forall id, id ∈ approvals ((queueProposal digest).run t).2.inner ->
            id = q.proposing
  | .host (.call (.prepareToEncrypt proposing rnd)) =>
      Folds t.inner ((prepareToEncrypt proposing rnd).run t).2.inner ->
        approvals ((prepareToEncrypt proposing rnd).run t).2.inner = []
  | _ => True

theorem single_authorize {q : PartySequence} {id : Bytes}
    (hsingle : q.authorizedNext.length <= 1)
    (honly : forall x, x ∈ q.authorizedNext -> x = id) :
    (q.authorize id).authorizedNext.length <= 1 ∧
      forall x, x ∈ (q.authorize id).authorizedNext -> x = id := by
  constructor
  · by_cases hknown : id ∈ q.authorizedNext
    · rw [PartySequence.authorize_eq_self hknown]
      exact hsingle
    · have hempty : q.authorizedNext = [] := by
        cases hlist : q.authorizedNext with
        | nil => rfl
        | cons x rest =>
            rw [hlist] at honly hknown
            have hx := honly x List.mem_cons_self
            rw [hx] at hknown
            exact absurd List.mem_cons_self hknown
      unfold PartySequence.authorize PartySequence.isAuthorized
      rw [hempty]
      exact Nat.le_refl 1
  · intro x hx
    rcases PartySequence.mem_authorize.mp hx with hx | rfl
    · exact honly x hx
    · rfl

section

variable (L : Lawful M)

include L

theorem SingleApproval.live {t : TwoMlsPqSession M} {a : LifeAction M}
    (happroved : Durable Approved t) (h : Durable SingleApproval t)
    (hconforms : Conforms t a) :
    Durable SingleApproval (t.live a) := by
  cases a with
  | reopen => exact h.reopened L SingleApproval.stable fun _ _ hr hc => hc.restored hr
  | host a =>
      cases a with
      | restart =>
          exact h.restarted L (fun _ => SingleApproval.recovered)
            fun _ _ hr hc => hc.restored hr
      | call call =>
          have hadvances := call_advances L call t happroved.now
          by_cases hqueues : call.Queues
          · cases call with
            | queueProposal digest =>
                change Advances (queueEvents t.inner.msg.offeredProposal) t _
                  at hadvances
                cases hoffered : t.inner.msg.offeredProposal with
                | none =>
                    rw [hoffered] at hadvances
                    refine h.advance hadvances fun e c c' he hstep hc => hc.step hstep ?_
                    rintro id rfl
                    rcases he with ⟨_, hoffer, -⟩
                    cases hoffer
                | some offer =>
                    rw [hoffered] at hadvances
                    refine h.advance_along
                      (J := fun c => forall id, id ∈ c.auth.theirs.authorizedNext ->
                        id = offer.proposing) ?_ hadvances ?_
                    · intro id hid
                      rcases hconforms id hid with ⟨offer', hoffer', rfl⟩
                      rw [hoffered] at hoffer'
                      cases hoffer'
                      rfl
                    · intro e c c' he hstep honly hc
                      by_cases happroves : exists id, e = .authorizeTheirs id
                      · rcases happroves with ⟨id, rfl⟩
                        rcases he with ⟨_, hoffer, rfl⟩
                        cases hoffer
                        cases hstep
                        exact single_authorize hc honly
                      · have he' : forall id, e ≠ .authorizeTheirs id :=
                          fun id hid => happroves ⟨id, hid⟩
                        refine ⟨hc.step hstep he', ?_⟩
                        intro id hid
                        rcases hstep.approvals he' with hsame | hempty
                        · rw [hsame] at hid
                          exact honly id hid
                        · rw [hempty] at hid
                          cases hid
            | _ => exact hqueues.elim
          · exact h.advance hadvances fun e c c' he hstep hc =>
              hc.step hstep (call.events_unapproving hqueues he)

theorem approved_alone_iff (t : TwoMlsPqSession M) (digest : Bytes)
    (hok : ((queueProposal digest).run t).1 = .ok ()) :
    TallyKept t (.host (.call (.queueProposal digest))) ↔ Reoffers t.inner := by
  have happroves := (triple_queueProposal L t digest).ok rfl hok
  rcases happroves with ⟨offer, hoffered, hqueued, hauth⟩
  have hmem : forall id, id ∈ approvals ((queueProposal digest).run t).2.inner ↔
      id ∈ approvals t.inner ∨ id = offer.proposing := by
    intro id
    unfold approvals
    rw [hauth]
    exact PartySequence.mem_authorize
  constructor
  · intro hkept id hid
    rcases hkept hok with ⟨q, hq, honly⟩
    rw [hqueued] at hq
    cases hq
    exact ⟨offer, hoffered, (honly id ((hmem id).mpr (Or.inl hid))).symm⟩
  · intro hreoffers _
    refine ⟨offer, hqueued, fun id hid => ?_⟩
    rcases (hmem id).mp hid with hknown | hnew
    · rcases hreoffers id hknown with ⟨offer', hoffer', rfl⟩
      rw [hoffered] at hoffer'
      cases hoffer'
      rfl
    · exact hnew

/-- Behind a fold the tally is empty, exactly if the fold made news canonical. -/
theorem folded_empty_iff {t : TwoMlsPqSession M}
    (happroved : ApprovedProposal t.inner.msg.queuedProposal) (proposing : Option Bytes)
    (rnd : Nat -> M.Seed)
    (hfolds : Folds t.inner ((prepareToEncrypt proposing rnd).run t).2.inner) :
    TallyKept t (.host (.call (.prepareToEncrypt proposing rnd))) ↔
      FoldsNews t.inner := by
  have hsettled := foldSettled_prepareToEncrypt L happroved proposing rnd
  have htheirs : ((prepareToEncrypt proposing rnd).run t).2.inner.services.auth.theirs =
      foldedTheirs t.inner.msg.queuedProposal t.inner := by
    rcases hsettled with hquiet | hfolded | ⟨g, held, hlength⟩
    · rcases hfolds.moved with ⟨g, g', held, held', hepoch⟩
      rw [held, held'] at hquiet
      have hsame : M.currentEpoch g' = M.currentEpoch g := Option.some.inj hquiet.epoch
      omega
    · exact hfolded
    · exact absurd (hfolds.paired g held) hlength
  rcases Option.isSome_iff_exists.mp hfolds.queued with ⟨q, hq⟩
  have hexact := foldedTheirs_approvals hq
  have hafter : approvals ((prepareToEncrypt proposing rnd).run t).2.inner =
      (foldedTheirs t.inner.msg.queuedProposal t.inner).authorizedNext := by
    unfold approvals
    rw [htheirs]
  constructor
  · intro hkept q' hq'
    rw [hq] at hq'
    cases hq'
    exact hexact.mp (hafter.symm.trans (hkept hfolds))
  · intro hnews _
    rw [hafter]
    exact hexact.mpr (hnews q hq)

/-- In a run whose approvals bring nothing beside what is approved already, and whose
folds bring news, the tally is at most the queued credential behind an approval and
empty behind a fold, and the peer's sequence admits no approval but one.  A step that
does not conform breaks the tally wherever it goes through. -/
theorem tally_follows_queue {s : SessionInner M} (born : Born s)
    (unapproved : approvals s = []) :
    (forall t, Run TwoMlsPqSession.live Conforms (TwoMlsPqSession.fresh s) t ->
      (approvals t.inner).length <= 1 ∧
        (forall pred succ, t.inner.services.auth.theirs.validSuccessor pred succ = true ->
          pred = succ ∨ approvals t.inner = [succ] ∨
            succ ∈ t.inner.services.auth.theirs.history) ∧
        forall a, Conforms t a -> TallyKept t a) ∧
    (forall t, Run TwoMlsPqSession.live (fun _ _ => True) (TwoMlsPqSession.fresh s) t ->
      (forall digest, ((queueProposal digest).run t).1 = .ok () ->
        TallyKept t (.host (.call (.queueProposal digest))) -> Reoffers t.inner) ∧
      forall proposing rnd,
        Folds t.inner ((prepareToEncrypt proposing rnd).run t).2.inner ->
          TallyKept t (.host (.call (.prepareToEncrypt proposing rnd))) ->
            FoldsNews t.inner) := by
  have hfresh : Durable Approved (TwoMlsPqSession.fresh s) :=
    Durable.fresh (approved_unused (born.unused L))
  have hsingle : Durable SingleApproval (TwoMlsPqSession.fresh s) := by
    apply Durable.fresh
    change (approvals s).length <= 1
    rw [unapproved]
    exact Nat.zero_le 1
  constructor
  · intro t run
    have hrun : Durable Approved t ∧ Durable SingleApproval t :=
      run.invariant (I := fun t => Durable Approved t ∧ Durable SingleApproval t)
        (fun _ _ h ha => ⟨approved_live L h.1, SingleApproval.live L h.1 h.2 ha⟩)
        ⟨hfresh, hsingle⟩
    have hlength : (approvals t.inner).length <= 1 := hrun.2.now
    refine ⟨hlength, ?_, ?_⟩
    · intro pred succ hvalid
      rcases PartySequence.validSuccessor_admits hvalid with hsame | happroved | hknown
      · exact Or.inl hsame
      · right
        left
        change succ ∈ approvals t.inner at happroved
        rcases List.length_eq_one_iff.mp (Nat.le_antisymm hlength
          (List.length_pos_of_mem happroved)) with ⟨x, hx⟩
        rw [hx] at happroved ⊢
        rw [List.mem_singleton.mp happroved]
      · exact Or.inr (Or.inr hknown)
    · intro a hconforms
      cases a with
      | reopen => exact True.intro
      | host a =>
          cases a with
          | restart => exact True.intro
          | call call =>
              cases call with
              | queueProposal digest =>
                  intro hok
                  exact (approved_alone_iff L t digest hok).mpr hconforms hok
              | prepareToEncrypt proposing rnd =>
                  intro hfolds
                  exact (folded_empty_iff L hrun.1.now proposing rnd hfolds).mpr
                    hconforms hfolds
              | _ => exact True.intro
  · intro t run
    have happroved : Durable Approved t :=
      run.invariant (I := Durable Approved) (fun _ _ h _ => approved_live L h) hfresh
    constructor
    · exact fun digest hok => (approved_alone_iff L t digest hok).mp
    · exact fun proposing rnd hfolds =>
        (folded_empty_iff L happroved.now proposing rnd hfolds).mp

end

end

namespace ReferencePair

def undecided (w : World Reference.mls) : Bool :=
  (w.session .right).inner.msg.queuedProposal.isNone &&
    (approvals (w.session .right).inner).isEmpty

theorem undecided_conforms {w : World Reference.mls} (h : undecided w = true)
    (call : Call Reference.mls) :
    Conforms (w.session .right) (.host (.call call)) := by
  unfold undecided at h
  rw [Bool.and_eq_true, Option.isNone_iff_eq_none, List.isEmpty_iff] at h
  rcases h with ⟨hqueued, hempty⟩
  cases call with
  | queueProposal digest =>
      intro id hid
      rw [hempty] at hid
      cases hid
  | prepareToEncrypt proposing rnd =>
      intro q hq
      rw [hqueued] at hq
      cases hq
  | _ => exact True.intro

set_option maxRecDepth 4000 in
theorem offered_conforms :
    Run TwoMlsPqSession.live Conforms (TwoMlsPqSession.fresh acceptor)
      (rotationOffered.session .right) := by
  have hworld : Run World.act
      (fun w a => w.Calls a ∧ undecided (w.act a) = true) world rotationOffered := by
    apply World.run_calls_along
    · simp [greeting, send, receive, Move.Fair, Move.isRestore, Call.delivered]
    · decide +kernel
  have halong := hworld.along (I := fun w => undecided w = true)
    (fun _ _ _ ha => ha.2) (by decide +kernel)
  have hhosted : Run TwoMlsPqSession.host (fun t a => Conforms t (.host a))
      (TwoMlsPqSession.fresh acceptor) (rotationOffered.session .right) :=
    World.run_host .right (fun _ call ha => undecided_conforms ha.2 call)
      (fun _ _ => True.intro) halong
  exact hhosted.map LifeAction.host (fun _ _ => rfl) fun _ _ ha => ha

theorem acceptor_unapproved : approvals acceptor = [] := by
  decide +kernel

theorem offer_queues :
    ((queueProposal offeredDigest).run (rotationOffered.session .right)).1 = .ok () := by
  have hok : ((queueProposal offeredDigest).run
      (rotationOffered.session .right)).1.toOption.isSome = true := by
    decide +kernel
  rw [eq_ok_of_isSome hok]

def reconsidered : World Reference.mls :=
  rotationOffered.play
    ([.call .right (.queueProposal offeredDigest)] ++ send .left 5100 ++
      [receive .right 2])

def plainDigest : Bytes :=
  (((reconsidered.session .right).inner.msg.offeredProposal).map
    PeerProposal.digest).getD []

set_option maxRecDepth 4000 in
theorem reconsidered_run :
    Run TwoMlsPqSession.live (fun _ _ => True) (TwoMlsPqSession.fresh acceptor)
      (reconsidered.session .right) := by
  have hoffered := rotationOffered_calls.mono fun _ _ _ => True.intro
  exact World.run_live .right (hoffered.trans (World.run_played rotationOffered _))

end ReferencePair

/-- The first approval stands alone. -/
theorem first_approval_alone :
    exists q,
      ((queueProposal ReferencePair.offeredDigest).run
          (ReferencePair.rotationOffered.session .right)).2.inner.msg.queuedProposal =
            some q ∧
        forall id,
          id ∈ approvals ((queueProposal ReferencePair.offeredDigest).run
            (ReferencePair.rotationOffered.session .right)).2.inner ->
            id = q.proposing := by
  have htally := (tally_follows_queue Reference.lawful ReferencePair.acceptor_born
    ReferencePair.acceptor_unapproved).1 _ ReferencePair.offered_conforms
  apply htally.2.2 (.host (.call (.queueProposal ReferencePair.offeredDigest)))
  · intro id hid
    have hempty : approvals (ReferencePair.rotationOffered.session .right).inner = [] := by
      decide +kernel
    rw [hempty] at hid
    cases hid
  · exact ReferencePair.offer_queues

/-- Behind a second approval the first one stands too. -/
theorem superseded_approval_stands :
    ¬ forall (s : SessionInner Reference.mls) (t : TwoMlsPqSession Reference.mls),
      Born s -> approvals s = [] ->
        Run TwoMlsPqSession.live (fun _ _ => True) (TwoMlsPqSession.fresh s) t ->
          forall a, TallyKept t a := by
  intro hall
  have hkept := hall _ _ ReferencePair.acceptor_born ReferencePair.acceptor_unapproved
    ReferencePair.reconsidered_run
    (.host (.call (.queueProposal ReferencePair.plainDigest)))
  have hok : ((queueProposal ReferencePair.plainDigest).run
      (ReferencePair.reconsidered.session .right)).1.toOption.isSome = true := by
    decide +kernel
  have hboth : approvals ((queueProposal ReferencePair.plainDigest).run
      (ReferencePair.reconsidered.session .right)).2.inner = [[0xA1], [0xA0]] := by
    decide +kernel
  rcases hkept (by rw [ReferencePair.eq_ok_of_isSome hok]) with ⟨q, -, honly⟩
  rw [hboth] at honly
  have hfirst := honly [0xA1] (by decide)
  have hsecond := honly [0xA0] (by decide)
  rw [← hsecond] at hfirst
  revert hfirst
  decide

end Session
end TwoMlsPq
