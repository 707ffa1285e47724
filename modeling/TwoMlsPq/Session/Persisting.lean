import TwoMlsPq.Session.Doors
import TwoMlsPq.Session.HalfSteps

/-!
# What the persisting wrapper runs

`mutate_and_persist` runs its operation on a session whose core is the one it
was called on, and after the operation it only encodes: what it pushes pictures
the core the operation ended in, up to quiet changes.  So does every call.
-/

namespace TwoMlsPq
namespace Session

open Foundation Apq

section

variable {M : MlsRs} {α : Type}

def bumped (t : TwoMlsPqSession M) : TwoMlsPqSession M :=
  { t with inner := { t.inner with stateSeq := t.inner.stateSeq + 1 } }

theorem run_bumpSeq_lt {t : TwoMlsPqSession M} (h : t.inner.stateSeq < maxSeq) :
    bumpSeq.run t = (.ok true, bumped t) := by
  unfold bumpSeq
  rw [Op.run_bind, Op.run_state]
  dsimp only
  rw [if_pos h]
  rfl

theorem run_bumpSeq_exhausted {t : TwoMlsPqSession M}
    (h : ¬ t.inner.stateSeq < maxSeq) :
    bumpSeq.run t = (.ok false, t) := by
  unfold bumpSeq
  rw [Op.run_bind, Op.run_state]
  dsimp only
  rw [if_neg h]
  rfl

def mutated (x : SessionOp M α) (t : TwoMlsPqSession M) : TwoMlsPqSession M :=
  { bumped t with inner := (x.run (bumped t).inner).2 }

theorem run_mutateAndPersist_state {k : BlobKind} {x : SessionOp M α}
    {t : TwoMlsPqSession M} (h : t.inner.stateSeq < maxSeq) :
    ((mutateAndPersist k x).run t).2 =
      ((encodeAndPush k).run (mutated x t)).2 := by
  unfold mutateAndPersist
  rw [Op.run_bind, run_bumpSeq_lt h]
  dsimp only
  rw [if_pos rfl, Op.run_bind, Op.run_attempt]
  dsimp only
  rw [Op.run_bind_still]
  · rfl
  · intro encoded
    split
    · exact Op.Still.fail _
    · exact Op.Still.value _
    · exact Op.Still.fail _

theorem run_mutateAndPersist_exhausted {kind : BlobKind} {x : SessionOp M α}
    {t : TwoMlsPqSession M} (h : ¬ t.inner.stateSeq < maxSeq) :
    (mutateAndPersist kind x).run t = (locked x).run t := by
  unfold mutateAndPersist
  rw [Op.run_bind, run_bumpSeq_exhausted h]
  rfl

def persisted (result : Result α) (encoded : Result Unit) : Result α :=
  match result, encoded with
  | .error e, _ => .error e
  | .ok a, .ok _ => .ok a
  | .ok _, .error e => .error e

theorem run_mutateAndPersist_result {k : BlobKind} {x : SessionOp M α}
    {t : TwoMlsPqSession M} (h : t.inner.stateSeq < maxSeq) :
    ((mutateAndPersist k x).run t).1 =
      persisted (x.run (bumped t).inner).1
        ((encodeAndPush k).run (mutated x t)).1 := by
  unfold mutateAndPersist persisted
  rw [Op.run_bind, run_bumpSeq_lt h]
  dsimp only
  rw [if_pos rfl, Op.run_bind, Op.run_attempt]
  dsimp only
  rw [Op.run_bind, Op.run_attempt]
  unfold locked mutated
  rw [Op.run_ofResult]
  dsimp only
  cases (x.run (bumped t).inner).1 with
  | error e => rfl
  | ok a => split <;> simp_all

def started (t : TwoMlsPqSession M) : SessionInner M :=
  if t.inner.stateSeq < maxSeq then (bumped t).inner else t.inner

@[simp]
theorem core_started (t : TwoMlsPqSession M) : (started t).core = t.inner.core := by
  unfold started
  split
  · rfl
  · rfl

theorem mutateAndPersist_started (L : Lawful M) (kind : BlobKind) (x : SessionOp M α)
    (t : TwoMlsPqSession M) :
    Advances quietEvents { t with inner := (x.run (started t)).2 }
        ((mutateAndPersist kind x).run t).2 ∧
      forall a, ((mutateAndPersist kind x).run t).1 = .ok a ->
        (x.run (started t)).1 = .ok a := by
  unfold started
  by_cases h : t.inner.stateSeq < maxSeq
  · rw [if_pos h]
    constructor
    · have hencoded := (door_encodeAndPush L (A := quietEvents) (p := fun _ => True)
        True.intro kind).advances (t := mutated x t) True.intro
      rw [run_mutateAndPersist_state h]
      exact hencoded
    · intro a ha
      rw [run_mutateAndPersist_result h] at ha
      unfold persisted at ha
      split at ha
      · cases ha
      next hrun _ =>
        cases ha
        exact hrun
      · cases ha
  · rw [if_neg h]
    constructor
    · rw [run_mutateAndPersist_exhausted h]
      exact Advances.silent Path.refl rfl
    · intro a ha
      rw [run_mutateAndPersist_exhausted h] at ha
      exact ha

theorem mutateAndPersist_runs (L : Lawful M) (kind : BlobKind) (x : SessionOp M α)
    (t : TwoMlsPqSession M) :
    exists s : SessionInner M,
      s.core = t.inner.core ∧
        Advances quietEvents { t with inner := (x.run s).2 }
          ((mutateAndPersist kind x).run t).2 ∧
        forall a, ((mutateAndPersist kind x).run t).1 = .ok a ->
          (x.run s).1 = .ok a :=
  ⟨started t, core_started t, mutateAndPersist_started L kind x t⟩

/-!
## What a call pushes
-/

def Unpushed (x : ApiOp M α) : Prop :=
  forall t, (x.run t).2.pushed = t.pushed

/-- How an operation ends: having pushed nothing, or with one encoding, or with a
Core's and, at the next count, a Checkpoint's. -/
inductive Filing (t : TwoMlsPqSession M) : TwoMlsPqSession M -> Prop where
  | silent (t' : TwoMlsPqSession M) (h : t'.pushed = t.pushed) : Filing t t'
  | once (kind : BlobKind) (u : TwoMlsPqSession M) (h : u.pushed = t.pushed) :
      Filing t ((encodeAndPush kind).run u).2
  | twice (u : TwoMlsPqSession M) (h : u.pushed = t.pushed) :
      Filing t ((encodeAndPush .checkpoint).run (bumped ((encodeAndPush .core).run u).2)).2

/-- Whatever the operation does, it does before it pushes. -/
def PushesLast (x : ApiOp M α) : Prop :=
  forall t, Filing t (x.run t).2

theorem unpushed_still {x : ApiOp M α} (hx : Op.Still x) : Unpushed x := by
  intro t
  rw [hx t]

theorem unpushed_locked (x : SessionOp M α) : Unpushed (locked x) :=
  fun _ => rfl

theorem Unpushed.bind {β : Type} {x : ApiOp M α} {f : α -> ApiOp M β} (hx : Unpushed x)
    (hf : forall a, Unpushed (f a)) :
    Unpushed (x >>= f) := by
  intro t
  have hfirst := hx t
  rw [Op.run_bind]
  rcases hrun : x.run t with ⟨r, t'⟩
  rw [hrun] at hfirst
  cases r with
  | error e => exact hfirst
  | ok a => exact (hf a t').trans hfirst

theorem Filing.congr {t₀ t t' : TwoMlsPqSession M} (h : Filing t t')
    (hpushed : t.pushed = t₀.pushed) :
    Filing t₀ t' := by
  cases h with
  | silent t' h => exact Filing.silent _ (h.trans hpushed)
  | once kind u h => exact Filing.once kind u (h.trans hpushed)
  | twice u h => exact Filing.twice u (h.trans hpushed)

theorem Filing.quietly (L : Lawful M) {t t' : TwoMlsPqSession M} (h : Filing t t') :
    exists u : TwoMlsPqSession M, u.pushed = t.pushed ∧ Advances quietEvents u t' := by
  have hencodes : forall kind (u : TwoMlsPqSession M),
      Advances quietEvents u ((encodeAndPush kind).run u).2 :=
    fun kind u => (door_encodeAndPush L (p := fun _ => True) True.intro kind).advances
      True.intro
  have hbumps : forall u : TwoMlsPqSession M, Advances quietEvents u (bumped u) :=
    fun u => Advances.silent Path.refl rfl
  cases h with
  | silent t' h => exact ⟨t', h, Std.Refl.refl _⟩
  | once kind u h => exact ⟨u, h, hencodes kind u⟩
  | twice u h =>
      refine ⟨u, h, ?_⟩
      exact IsTrans.trans _ _ _ (hencodes .core u)
        (IsTrans.trans _ _ _ (hbumps _) (hencodes .checkpoint _))

namespace PushesLast

theorem silent {x : ApiOp M α} (hx : Unpushed x) : PushesLast x :=
  fun t => Filing.silent _ (hx t)

theorem still {x : ApiOp M α} (hx : Op.Still x) : PushesLast x :=
  silent (unpushed_still hx)

theorem encodes (kind : BlobKind) : PushesLast (encodeAndPush (M := M) kind) :=
  fun t => Filing.once kind t rfl

theorem behind {β : Type} {x : ApiOp M α} {f : α -> ApiOp M β} (hx : Unpushed x)
    (hf : forall a, PushesLast (f a)) :
    PushesLast (x >>= f) := by
  intro t
  have hfirst := hx t
  rw [Op.run_bind]
  rcases hrun : x.run t with ⟨r, t'⟩
  rw [hrun] at hfirst
  cases r with
  | error e => exact Filing.silent _ hfirst
  | ok a => exact (hf a t').congr hfirst

theorem looking {β : Type} {x : ApiOp M α} {f : α -> ApiOp M β} (hx : Op.Still x)
    (hf : forall a, PushesLast (f a)) :
    PushesLast (x >>= f) :=
  behind (unpushed_still hx) hf

theorem then_still {β : Type} {x : ApiOp M α} {f : α -> ApiOp M β} (hx : PushesLast x)
    (hf : forall a, Op.Still (f a)) :
    PushesLast (x >>= f) := by
  intro t
  rw [Op.run_bind_still hf t]
  exact hx t

theorem ite {c : Prop} [Decidable c] {x y : ApiOp M α} (hx : PushesLast x)
    (hy : PushesLast y) : PushesLast (if c then x else y) := by
  split
  · exact hx
  · exact hy

theorem handing {x : ApiOp M α} (hx : PushesLast x) (frames : α -> List (Frame M)) :
    PushesLast (handing x frames) :=
  then_still hx fun _ => Op.Still.value _

theorem pushes (L : Lawful M) {x : ApiOp M α} (hx : PushesLast x)
    {t : TwoMlsPqSession M} {I : Core M -> Prop} (hquiet : Stable I)
    (hend : I (x.run t).2.inner.core) :
    exists new, (x.run t).2.pushed = t.pushed ++ new ∧ Pictured (fun _ => I) new := by
  rcases (hx t).quietly L with ⟨u, hu, hgoes, new, hpushed, hnew⟩
  have hsame : forall {c : Core M}, Path quietEvents u.inner.core c ->
      Quiet u.inner.core c := by
    intro c hpath
    refine hpath.invariant (I := Quiet u.inner.core) ?_ (Quiet.refl _)
    intro e c₁ c₂ he hstep hc
    cases hstep with
    | quiet hq => exact hc.trans hq
    | _ => exact he.elim
  have hstart : I u.inner.core := hquiet _ _ (hsame hgoes).symm hend
  rw [hu] at hpushed
  exact ⟨new, hpushed, hnew.mono fun _ _ hc => hquiet _ _ (hsame hc) hstart⟩

end PushesLast

theorem pushesLast_mutateAndPersist (kind : BlobKind) (x : SessionOp M α) :
    PushesLast (mutateAndPersist kind x) := by
  intro t
  by_cases h : t.inner.stateSeq < maxSeq
  · rw [run_mutateAndPersist_state h]
    exact Filing.once kind (mutated x t) rfl
  · rw [run_mutateAndPersist_exhausted h]
    exact Filing.silent _ rfl

theorem run_persistAfter_lt {kind : BlobKind} {t : TwoMlsPqSession M}
    (h : t.inner.stateSeq < maxSeq) :
    ((persistAfter kind).run t).2 = ((encodeAndPush kind).run (bumped t)).2 := by
  unfold persistAfter
  rw [Op.run_bind_ok (run_bumpSeq_lt h), if_pos rfl,
    Op.run_bind_still fun _ => Op.Still.value _, Op.run_attempt]

theorem run_persistAfter_exhausted {kind : BlobKind} {t : TwoMlsPqSession M}
    (h : ¬ t.inner.stateSeq < maxSeq) :
    ((persistAfter kind).run t).2 = t := by
  unfold persistAfter
  rw [Op.run_bind_ok (run_bumpSeq_exhausted h)]
  rfl

theorem pushesLast_persistAfter (kind : BlobKind) :
    PushesLast (persistAfter (M := M) kind) := by
  intro t
  by_cases h : t.inner.stateSeq < maxSeq
  · rw [run_persistAfter_lt h]
    exact Filing.once kind (bumped t) rfl
  · rw [run_persistAfter_exhausted h]
    exact Filing.silent _ rfl

theorem unpushed_bumpSeq : Unpushed (bumpSeq (M := M)) := by
  intro t
  by_cases h : t.inner.stateSeq < maxSeq
  · rw [run_bumpSeq_lt h]
    rfl
  · rw [run_bumpSeq_exhausted h]

theorem pushesLast_persistHandOut : PushesLast (persistHandOut (M := M)) := by
  unfold persistHandOut
  refine PushesLast.behind unpushed_bumpSeq fun _ => ?_
  refine PushesLast.then_still (fun t => ?_) fun _ => Op.Still.value _
  rw [Op.run_attempt]
  exact PushesLast.encodes .core t

theorem pushesLast_encrypt (appMessage : Bytes) (rnd : Nat -> M.Seed) :
    PushesLast (encrypt appMessage rnd) := by
  unfold encrypt
  intro t
  by_cases h : t.inner.stateSeq < maxSeq
  · have hstate := run_mutateAndPersist_state (k := .core)
      (x := encryptInner appMessage rnd) h
    rw [Op.run_bind]
    rcases hrun : (mutateAndPersist .core (encryptInner appMessage rnd)).run t with ⟨r, t₁⟩
    rw [hrun] at hstate
    change t₁ = _ at hstate
    subst hstate
    have honce : Filing t ((encodeAndPush .core).run
        (mutated (encryptInner appMessage rnd) t)).2 :=
      Filing.once .core (mutated (encryptInner appMessage rnd) t) rfl
    cases r with
    | error e => exact honce
    | ok result =>
        dsimp only
        rw [Op.run_bind_still fun _ => Op.Still.value _]
        split
        · by_cases h' : ((encodeAndPush .core).run
            (mutated (encryptInner appMessage rnd) t)).2.inner.stateSeq < maxSeq
          · rw [run_persistAfter_lt h']
            exact Filing.twice (mutated (encryptInner appMessage rnd) t) rfl
          · rw [run_persistAfter_exhausted h']
            exact honce
        · exact honce
  · rw [Op.run_bind, run_mutateAndPersist_exhausted h]
    rcases hrun : (locked (encryptInner appMessage rnd)).run t with ⟨r, t₁⟩
    have hpushed : t₁.pushed = t.pushed := by
      have hlocked := unpushed_locked (encryptInner appMessage rnd) t
      rw [hrun] at hlocked
      exact hlocked
    cases r with
    | error e => exact Filing.silent _ hpushed
    | ok result =>
        dsimp only
        rw [Op.run_bind_still fun _ => Op.Still.value _]
        split
        · exact (pushesLast_persistAfter .checkpoint t₁).congr hpushed
        · exact Filing.silent _ hpushed

theorem pushesLast_processIncomingWith (frame : Frame M)
    (approval : Option EstablishmentApproval) :
    PushesLast (processIncomingWith frame approval) := by
  unfold processIncomingWith
  refine PushesLast.looking Op.Still.state fun before => ?_
  refine PushesLast.behind (unpushed_locked _) fun result => ?_
  refine PushesLast.looking Op.Still.state fun after => ?_
  refine PushesLast.then_still (PushesLast.ite ?_ ?_) fun _ => Op.Still.value _
  · exact PushesLast.still (Op.Still.value _)
  · exact pushesLast_persistAfter _

theorem pushesLast_pendingOutbound : PushesLast (pendingOutbound (M := M)) := by
  unfold pendingOutbound
  refine PushesLast.behind (fun _ => rfl) fun delegated => ?_
  refine PushesLast.looking Op.Still.state fun t => ?_
  split
  · refine PushesLast.behind (fun _ => rfl) fun _ => ?_
    refine PushesLast.behind ?_ fun out => ?_
    · split
      · refine Unpushed.bind (fun _ => rfl) fun sealed => ?_
        exact unpushed_still (Op.Still.value _)
      · exact unpushed_still (Op.Still.value _)
    · exact PushesLast.then_still pushesLast_persistHandOut fun _ => Op.Still.value _
  · exact PushesLast.still (Op.Still.value _)

theorem pushesLast_pqTakePendingOutbound :
    PushesLast (pqTakePendingOutbound (M := M)) := by
  unfold pqTakePendingOutbound
  refine PushesLast.behind (fun _ => rfl) fun delegated => ?_
  refine PushesLast.looking Op.Still.state fun t => ?_
  split
  · refine PushesLast.behind (fun _ => rfl) fun _ => ?_
    refine PushesLast.behind (fun _ => rfl) fun sealed => ?_
    exact PushesLast.then_still pushesLast_persistHandOut fun _ => Op.Still.value _
  · exact PushesLast.still (Op.Still.value _)

/-- Whatever a call does, it does before it pushes. -/
theorem call_pushesLast (call : Call M) : PushesLast call.run := by
  cases call with
  | installSink =>
      refine PushesLast.handing ?_ _
      unfold installSink
      refine PushesLast.looking Op.Still.state fun t => ?_
      refine PushesLast.looking (Op.Still.ensure _ _) fun _ => ?_
      refine PushesLast.behind (fun _ => rfl) fun _ => ?_
      exact PushesLast.encodes .checkpoint
  | pendingOutbound => exact pushesLast_pendingOutbound.handing _
  | installEstablishmentEnvelope envelope =>
      refine PushesLast.handing ?_ _
      unfold installEstablishmentEnvelope
      refine PushesLast.looking (Op.Still.ensure _ _) fun _ => ?_
      refine PushesLast.looking Op.Still.state fun t => ?_
      split
      · exact PushesLast.still (Op.Still.ensure _ _)
      · exact pushesLast_mutateAndPersist _ _
  | setInitialAppPayload payload seed => exact (pushesLast_mutateAndPersist _ _).handing _
  | setInitialReturnKeyPackage kp seed =>
      exact (pushesLast_mutateAndPersist _ _).handing _
  | prepareToEncrypt proposing rnd => exact (pushesLast_mutateAndPersist _ _).handing _
  | encrypt appMessage rnd => exact (pushesLast_encrypt appMessage rnd).handing _
  | processIncoming frame approval =>
      exact (pushesLast_processIncomingWith frame approval).handing _
  | queueProposal digest =>
      refine PushesLast.handing ?_ _
      unfold queueProposal
      refine PushesLast.looking Op.Still.state fun t => ?_
      refine PushesLast.looking (Op.Still.ensure _ _) fun _ => ?_
      exact pushesLast_mutateAndPersist _ _
  | exportAttachmentCekSend keyId =>
      exact ((pushesLast_mutateAndPersist _ _).then_still
        fun _ => Op.Still.ofExcept _).handing _
  | exportAttachmentCekRecv keyId epoch =>
      exact ((pushesLast_mutateAndPersist _ _).then_still
        fun _ => Op.Still.ofExcept _).handing _
  | shouldListenOn =>
      refine (PushesLast.silent ?_).handing _
      unfold shouldListenOn
      refine Unpushed.bind (unpushed_locked _) fun _ => ?_
      refine Unpushed.bind (unpushed_locked _) fun _ => ?_
      refine Unpushed.bind (unpushed_still Op.Still.state) fun t => ?_
      refine Unpushed.bind (unpushed_still (Op.Still.ensure _ _)) fun _ => ?_
      exact unpushed_still (Op.Still.value _)
  | pqPendingOutbound stable =>
      refine (PushesLast.silent ?_).handing _
      unfold pqPendingOutbound
      refine Unpushed.bind (fun _ => rfl) fun delegated => ?_
      split
      · exact unpushed_locked _
      · exact unpushed_still (Op.Still.value _)
  | pqTakePendingOutbound => exact pushesLast_pqTakePendingOutbound.handing _
  | pqRatchetRespond frame rnd =>
      refine PushesLast.handing ?_ _
      unfold pqRatchetRespond
      exact PushesLast.behind (unpushed_locked _) fun _ => pushesLast_mutateAndPersist _ _
  | pqRatchetBind frame seed =>
      refine PushesLast.handing ?_ _
      unfold pqRatchetBind
      exact PushesLast.behind (unpushed_locked _) fun _ => pushesLast_mutateAndPersist _ _
  | pqRekeyRespond frame seed =>
      refine PushesLast.handing ?_ _
      unfold pqRekeyRespond
      exact PushesLast.behind (unpushed_locked _) fun _ => pushesLast_mutateAndPersist _ _
  | pqRekeyApply frame seed =>
      refine PushesLast.handing ?_ _
      unfold pqRekeyApply
      exact PushesLast.behind (unpushed_locked _) fun _ => pushesLast_mutateAndPersist _ _
  | pqBootstrapBegin rotating =>
      refine PushesLast.handing ?_ _
      unfold pqBootstrapBegin
      refine PushesLast.behind (unpushed_locked _) fun retained => ?_
      cases retained with
      | some frame => exact PushesLast.still (Op.Still.value _)
      | none => exact pushesLast_mutateAndPersist _ _
  | pqBootstrapEnvelope seed =>
      refine PushesLast.handing ?_ _
      unfold pqBootstrapEnvelope
      refine PushesLast.behind (unpushed_locked _) fun retained => ?_
      cases retained with
      | some frame => exact PushesLast.still (Op.Still.value _)
      | none => exact pushesLast_mutateAndPersist _ _
  | pqBootstrapRespond frame rnd =>
      refine PushesLast.handing ?_ _
      unfold pqBootstrapRespond
      exact PushesLast.behind (unpushed_locked _) fun _ => pushesLast_mutateAndPersist _ _
  | pqBootstrapBind frame seed =>
      refine PushesLast.handing ?_ _
      unfold pqBootstrapBind
      exact PushesLast.behind (unpushed_locked _) fun _ => pushesLast_mutateAndPersist _ _

end

end Session
end TwoMlsPq
