import TwoMlsPq.Session.Agreement
import TwoMlsPq.Session.Stapling

/-!
# Post-quantum halves behind a Checkpoint

A Checkpoint carries the post-quantum halves as they are when it is pushed, and
a later Core names their epochs only.  While a sink is installed the newest
Checkpoint still carries the halves of the session, as long as no call in
between spends or stages anything in a half behind a Core, and no receive fails
with a half written.
-/

namespace TwoMlsPq
namespace Session

open Foundation Apq

section

variable {M : MlsRs} {α β : Type}

/-!
## What a Checkpoint carries
-/

theorem savedAs_exportPqHalf (h : Half) :
    Op.Triple (fun _ => True)
      (exportPqHalf h true : SessionOp M (Option M.GroupSnapshot))
      (fun snapshot s => SavedAs snapshot (s.half h)) fun _ _ => True := by
  unfold exportPqHalf
  refine Op.Triple.reading fun s _ => ?_
  cases held : s.half h with
  | none =>
      rw [if_neg (by simp)]
      refine Op.Triple.value fun s' hs' => ?_
      rw [hs', held]
      exact True.intro
  | some g =>
      rw [if_pos (by rfl)]
      have hsome : (s.half h).isSome = true := by
        rw [held]
        rfl
      rcases Option.isSome_iff_exists.mp (halfStore_isSome hsome) with ⟨store, hstore⟩
      refine Op.Triple.bind (Q := fun snapshot s => SavedAs (some snapshot) (s.half h))
        ?_ fun snapshot => Op.Triple.value fun _ hs => hs
      unfold exportHalf
      refine (triple_calling held hstore _ _ _).weaken ?_ fun _ _ _ => True.intro
      rintro snapshot s' ⟨g', hexport, rfl⟩
      rw [half_setHalf_held held]
      exact ⟨g, hexport⟩

theorem savedAs_exportSend :
    Op.Triple (fun _ => True) (exportSend true : SessionOp M (GroupEntry M))
      (fun entry s => SavedAs entry.pq (s.half .sendPq)) fun _ _ => True := by
  unfold exportSend
  refine Op.Triple.bind (Q := fun _ _ => True) (Op.Triple.any _) fun classical => ?_
  refine Op.Triple.bind (savedAs_exportPqHalf .sendPq) fun pq => ?_
  exact Op.Triple.value fun _ hs => hs

theorem savedAs_exportRecv :
    Op.Triple (fun _ => True) (exportRecv true : SessionOp M (Option (GroupEntry M)))
      (fun entry s => SavedAs (entry.bind GroupEntry.pq) (s.half .recvPq))
      fun _ _ => True := by
  unfold exportRecv
  refine Op.Triple.reading fun s _ => ?_
  refine Op.Triple.ite (fun hnone => ?_) fun _ => ?_
  · refine Op.Triple.value fun s' hs' => ?_
    rw [hs']
    have hmissing : s.half .recvPq = none := by
      apply recvPq_none
      intro hsome
      rw [Option.isNone_iff_eq_none.mp hnone] at hsome
      cases hsome
    rw [hmissing]
    exact True.intro
  · refine Op.Triple.bind (Q := fun _ _ => True) (Op.Triple.any _) fun classical => ?_
    refine Op.Triple.bind (savedAs_exportPqHalf .recvPq) fun pq => ?_
    exact Op.Triple.value fun _ hs => hs

theorem touches_exportRecv (includePq : Bool) :
    Touches [.half .recvClassical, .half .recvPq]
      (exportRecv includePq : SessionOp M (Option (GroupEntry M))) := by
  unfold exportRecv exportPqHalf
  refine Op.Writes.looking Op.Still.state fun s => ?_
  apply Op.Writes.ite
  · exact Op.Writes.value _
  refine Op.Writes.bind (touches_exportHalf _ (by decide)) fun classical => ?_
  refine Op.Writes.bind ?_ fun pq => Op.Writes.value _
  refine Op.Writes.looking Op.Still.state fun s => ?_
  apply Op.Writes.ite
  · exact Op.Writes.bind (touches_exportHalf _ (by decide)) fun pq => Op.Writes.value _
  · exact Op.Writes.value _

theorem savedAs_exportBoth (snapshot : Option M.GroupSnapshot) :
    Op.Triple (fun s => SavedAs snapshot (s.half .sendPq))
      (exportRecv true : SessionOp M (Option (GroupEntry M)))
      (fun entry s => SavedAs snapshot (s.half .sendPq) ∧
        SavedAs (entry.bind GroupEntry.pq) (s.half .recvPq)) fun _ _ => True := by
  intro s hsend
  have hrecv := savedAs_exportRecv s True.intro
  have hkept : ((exportRecv true).run s).2.half .sendPq = s.half .sendPq :=
    (touches_exportRecv true).half (by decide) s
  rcases hrun : (exportRecv true).run s with ⟨r, s'⟩
  rw [hrun] at hrecv hkept
  cases r with
  | error e => exact True.intro
  | ok entry =>
      refine ⟨?_, hrecv⟩
      change s'.half .sendPq = s.half .sendPq at hkept
      rw [hkept]
      exact hsend

theorem carriesPq_encodeCheckpoint :
    Op.Triple (fun _ => True) (encodeBlob .checkpoint : SessionOp M (Archive M))
      CarriesPq fun _ _ => True := by
  unfold encodeBlob buildArchiveWire
  refine Op.Triple.reading fun s _ => ?_
  refine Op.Triple.bind
    (Q := fun wire s' => SavedAs wire.sendGroup.pq (s'.half .sendPq) ∧
      SavedAs (wire.recvGroup.bind GroupEntry.pq) (s'.half .recvPq)) ?_ fun wire => ?_
  · refine Op.Triple.bind (Q := fun _ _ => True) (Op.Triple.any _) fun _ => ?_
    refine Op.Triple.bind savedAs_exportSend fun sendGroup => ?_
    refine Op.Triple.bind (savedAs_exportBoth sendGroup.pq) fun recvGroup => ?_
    exact Op.Triple.looking Op.Still.state (fun _ _ _ => True.intro) fun _ =>
      Op.Triple.value fun _ hs => hs
  · refine Op.Triple.value fun s' hs => ?_
    intro h hpq
    cases h with
    | sendPq => exact hs.1
    | recvPq => exact hs.2
    | sendClassical => cases hpq
    | recvClassical => cases hpq

/-!
## A session beside its newest Checkpoint
-/

/-- While a sink is installed, the newest Checkpoint carries the post-quantum halves
of the session. -/
def Backed (t : TwoMlsPqSession M) : Prop :=
  t.sinkInstalled = true ->
    exists ck, latest .checkpoint t.pushed = some ck ∧ CarriesPq ck t.inner

theorem Backed.unplugged {t : TwoMlsPqSession M} (h : t.sinkInstalled = false) :
    Backed t := by
  intro hsink
  rw [h] at hsink
  cases hsink

theorem Backed.same {t t' : TwoMlsPqSession M} (h : Backed t)
    (hsink : t'.sinkInstalled = t.sinkInstalled)
    (hlatest : latest .checkpoint t'.pushed = latest .checkpoint t.pushed)
    (hsame : SamePqHalves t.inner t'.inner) : Backed t' := by
  intro hinstalled
  rw [hsink] at hinstalled
  rcases h hinstalled with ⟨ck, hck, hcarries⟩
  exact ⟨ck, hlatest.trans hck, hcarries.same hsame⟩

section

variable (L : Lawful M) (T : Dependable M)

include L

theorem holdsSend_before {kind : BlobKind} {u : TwoMlsPqSession M}
    (h : HoldsSend ((encodeAndPush kind).run u).2.inner) : HoldsSend u.inner := by
  cases hsink : u.sinkInstalled with
  | false =>
      rw [encodeAndPush_silent kind hsink] at h
      exact h
  | true =>
      rw [encodeAndPush_inner kind hsink] at h
      exact (isSome_ofEpoch (encodeBlob_epoch L kind u.inner .sendClassical)).symm.trans h

include T

theorem encodeAndPush_adds {kind : BlobKind} {u : TwoMlsPqSession M}
    (hsink : u.sinkInstalled = true)
    (hsend : HoldsSend ((encodeAndPush kind).run u).2.inner) :
    exists p, p.kind = kind ∧ ((encodeAndPush kind).run u).2.pushed = u.pushed ++ [p] :=
  encodeAndPush_pushes T kind hsink (holdsSend_before L hsend)

theorem not_silent_encode {kind : BlobKind} {u t : TwoMlsPqSession M}
    (hsink : u.sinkInstalled = true) (hpushed : u.pushed = t.pushed)
    (hsend : HoldsSend ((encodeAndPush kind).run u).2.inner)
    (hsilent : ((encodeAndPush kind).run u).2.pushed = t.pushed) : False := by
  rcases encodeAndPush_adds L T hsink hsend with ⟨p, -, hadds⟩
  rw [hsilent, hpushed] at hadds
  exact absurd (List.self_eq_append_right.mp hadds) (List.cons_ne_nil p [])

theorem backed_encodeCheckpoint {u : TwoMlsPqSession M}
    (hsend : HoldsSend ((encodeAndPush .checkpoint).run u).2.inner) :
    Backed ((encodeAndPush .checkpoint).run u).2 := by
  cases hsink : u.sinkInstalled with
  | false =>
      rw [encodeAndPush_silent .checkpoint hsink]
      exact Backed.unplugged hsink
  | true =>
      intro _
      rcases (completes_encodeBlob T .checkpoint).result (holdsSend_before L hsend) with
        ⟨a, hencoded, -⟩
      have hcarries := carriesPq_encodeCheckpoint u.inner True.intro
      rw [hencoded] at hcarries
      have hrun : ((encodeAndPush .checkpoint).run u).2 =
          push .checkpoint a
            { u with inner := ((encodeBlob .checkpoint).run u.inner).2 } := by
        unfold encodeAndPush
        rw [Op.run_bind_ok (Op.run_state u), if_pos hsink, Op.run_bind]
        unfold locked
        rw [Op.run_ofResult, hencoded]
        rfl
      rw [hrun]
      exact ⟨a, latest_same u.pushed
        { seq := ((encodeBlob .checkpoint).run u.inner).2.stateSeq
          kind := .checkpoint
          archive := a }, hcarries⟩

theorem Filing.ends {t t' : TwoMlsPqSession M} (h : Filing t t')
    (hsend : HoldsSend t'.inner) :
    t'.pushed = t.pushed ∨ CoreOnly t t' ∨ Backed t' := by
  cases h with
  | silent t' h => exact Or.inl h
  | once kind u h =>
      cases kind with
      | checkpoint => exact Or.inr (Or.inr (backed_encodeCheckpoint L T hsend))
      | core =>
          cases hsink : u.sinkInstalled with
          | false =>
              rw [encodeAndPush_silent .core hsink]
              exact Or.inl h
          | true =>
              rcases encodeAndPush_adds L T hsink hsend with ⟨p, hkind, hadds⟩
              refine Or.inr (Or.inl ⟨[p], ?_, List.cons_ne_nil p [], ?_⟩)
              · rw [hadds, h]
              · intro q hq
                rw [List.mem_singleton.mp hq]
                exact hkind
  | twice u h => exact Or.inr (Or.inr (backed_encodeCheckpoint L T hsend))

/-!
## A call that pushes nothing
-/

/-- Where a call with counts left and a sink has pushed nothing, both post-quantum
halves are what they were. -/
def SilentlySpares (t : TwoMlsPqSession M) (x : ApiOp M α) : Prop :=
  t.sinkInstalled = true -> t.inner.stateSeq < maxSeq -> HoldsSend (x.run t).2.inner ->
    (x.run t).2.pushed = t.pushed -> SamePqHalves t.inner (x.run t).2.inner

omit L T in
theorem SilentlySpares.handing {t : TwoMlsPqSession M} {x : ApiOp M α}
    {frames : α -> List (Frame M)} (hx : SilentlySpares t x) :
    SilentlySpares t (handing x frames) := by
  unfold SilentlySpares
  rw [handing_run]
  exact hx

theorem silentlySpares_mutateAndPersist (t : TwoMlsPqSession M) (kind : BlobKind)
    (x : SessionOp M α) :
    SilentlySpares t (mutateAndPersist kind x) := by
  intro hsink hseq hsend hsilent
  rw [run_mutateAndPersist_state hseq] at hsend hsilent
  exact (not_silent_encode L T (u := mutated x t) hsink rfl hsend hsilent).elim

omit L T in
theorem silentlySpares_guarded {t : TwoMlsPqSession M} {guard : SessionOp M α}
    {body : α -> ApiOp M β} (hguard : Op.Still guard)
    (hbody : forall a, SilentlySpares t (body a)) :
    SilentlySpares t (locked guard >>= body) := by
  have hlocked : (locked guard).run t = ((guard.run t.inner).1, t) := by
    unfold locked
    rw [Op.run_ofResult, hguard t.inner]
  cases hresult : (guard.run t.inner).1 with
  | error e =>
      rw [hresult] at hlocked
      intro _ _ _ _
      rw [Op.run_bind_error hlocked]
      exact SamePqHalves.refl t.inner
  | ok a =>
      rw [hresult] at hlocked
      unfold SilentlySpares
      rw [Op.run_bind_ok hlocked]
      exact hbody a

theorem silentlySpares_resending {t : TwoMlsPqSession M}
    {guard : SessionOp M (Option (SideBand M))} (hguard : Op.Still guard)
    (body : SessionOp M (SideBand M)) :
    SilentlySpares t (do
      let retained <- locked guard
      match retained with
      | some frame => pure frame
      | none => mutateAndPersist .checkpoint body : ApiOp M (SideBand M)) := by
  refine silentlySpares_guarded hguard fun retained => ?_
  cases retained with
  | some frame => exact fun _ _ _ _ => SamePqHalves.refl t.inner
  | none => exact silentlySpares_mutateAndPersist L T t .checkpoint body

omit L in
theorem silentlySpares_encrypt (A : AtomicProposals M) (t : TwoMlsPqSession M)
    (appMessage : Bytes) (rnd : Nat -> M.Seed) :
    SilentlySpares t (encrypt appMessage rnd) := by
  intro hsink hseq _ hsilent
  rcases encrypt_same_or_staged A T appMessage rnd hseq with
    hsame | ⟨result, -, -, hsend, hrun⟩
  · exact hsame
  · rcases encodeAndPush_pushes T .core (t := mutated (encryptInner appMessage rnd) t)
      hsink hsend with ⟨p, -, hadds⟩
    have hpersists : Pushes (fun _ => True) (persistAfter (M := M) .checkpoint) :=
      pushes_persistAfter True.intro
    rcases hpersists
      ((encodeAndPush .core).run (mutated (encryptInner appMessage rnd) t)).2 with
      ⟨new, hnew, -⟩
    rw [hrun, hnew, hadds, List.append_assoc] at hsilent
    exact absurd (List.self_eq_append_right.mp hsilent.symm) (List.cons_ne_nil p new)

theorem silentlySpares_processIncoming {t : TwoMlsPqSession M} (frame : Frame M)
    (approval : Option EstablishmentApproval)
    (hfails : forall e, ((processIncomingWith frame approval).run t).1 = .error e ->
      SamePqHalves t.inner ((processIncomingWith frame approval).run t).2.inner) :
    SilentlySpares t (processIncomingWith frame approval) := by
  intro hsink hseq hsend hsilent
  rcases hrun : (processIncomingInner frame approval).run t.inner with ⟨r, u⟩
  rcases run_processIncomingWith frame approval t with ⟨herror, hpause, -⟩
  cases r with
  | error e => exact hfails e (congrArg Prod.fst (herror e u hrun))
  | ok d =>
      have hpaused := paused_processIncomingInner frame approval t.inner t.inner rfl
      have hcounter := unstapled_processIncomingInner frame approval t.inner ()
        List.not_mem_nil
      rw [hrun] at hpaused hcounter
      have hcounted : u.stateSeq = t.inner.stateSeq :=
        congrArg (fun stapling => stapling.2.2) hcounter
      cases hd : isPaused d with
      | true =>
          have hsame : u = t.inner := hpaused hd
          rw [hpause d u hrun hd, hsame]
          exact SamePqHalves.refl t.inner
      | false =>
          have hseq' : (t.withInner u).inner.stateSeq < maxSeq := by
            change u.stateSeq < maxSeq
            rw [hcounted]
            exact hseq
          rw [run_processIncomingWith_persists hrun hd] at hsend hsilent
          rw [run_persistAfter_lt hseq'] at hsend hsilent
          exact (not_silent_encode L T (u := bumped (t.withInner u)) hsink rfl hsend
            hsilent).elim

/-- The call leaves the post-quantum halves alone behind a Core, and if it is a
receive that fails, it fails with both as they were. -/
def Call.KeepsBacking (t : TwoMlsPqSession M) (call : Call M) : Prop :=
  call.LeavesPq t.inner ∧
    forall frame approval e, call = .processIncoming frame approval ->
      ((processIncomingWith frame approval).run t).1 = .error e ->
        SamePqHalves t.inner ((processIncomingWith frame approval).run t).2.inner

theorem silentlySpares_call (A : AtomicProposals M) {t : TwoMlsPqSession M}
    {call : Call M} (hcall : call ≠ .installSink) (h : call.KeepsBacking t) :
    SilentlySpares t call.run := by
  by_cases hspares : call.SparesPq
  · exact fun _ _ _ _ => call_spares hspares t
  cases call with
  | installSink => exact absurd rfl hcall
  | prepareToEncrypt proposing rnd =>
      exact SilentlySpares.handing fun _ _ _ _ => same_prepareToEncrypt proposing rnd h.1
  | encrypt appMessage rnd => exact (silentlySpares_encrypt T A t appMessage rnd).handing
  | processIncoming frame approval =>
      exact (silentlySpares_processIncoming L T frame approval fun e =>
        h.2 frame approval e rfl).handing
  | pqRatchetBind frame seed =>
      exact (silentlySpares_guarded (still_ratchetBindGuard frame) fun _ =>
        silentlySpares_mutateAndPersist L T t _ _).handing
  | pqRekeyRespond frame seed =>
      exact (silentlySpares_guarded (still_rekeyRespondGuard frame) fun _ =>
        silentlySpares_mutateAndPersist L T t _ _).handing
  | pqRekeyApply frame seed =>
      exact (silentlySpares_guarded (still_rekeyApplyGuard frame) fun _ =>
        silentlySpares_mutateAndPersist L T t _ _).handing
  | pqBootstrapBegin rotating =>
      exact (silentlySpares_resending L T (still_bootstrapBeginGuard rotating) _).handing
  | pqBootstrapEnvelope seed =>
      exact (silentlySpares_resending L T (still_bootstrapEnvelopeGuard seed) _).handing
  | pqBootstrapRespond frame rnd =>
      exact (silentlySpares_guarded (still_bootstrapRespondGuard frame) fun _ =>
        silentlySpares_mutateAndPersist L T t _ _).handing
  | pqBootstrapBind frame seed =>
      exact (silentlySpares_guarded (still_bootstrapBindGuard frame) fun _ =>
        silentlySpares_mutateAndPersist L T t _ _).handing
  | _ => exact absurd True.intro hspares

/-!
## Runs behind a Checkpoint
-/

def CheckpointsLast (t t' : TwoMlsPqSession M) : Prop :=
  exists new p, t'.pushed = t.pushed ++ new ++ [p] ∧ p.kind = .checkpoint

/-- While a sink is installed the counter lasts and every call keeps the backing. -/
def KeepsBacking (t : TwoMlsPqSession M) (a : LifeAction M) : Prop :=
  forall call, a = .host (.call call) -> t.sinkInstalled = true ->
    t.inner.stateSeq < maxSeq ∧ call.KeepsBacking t

omit L T in
theorem CoreOnly.sink {call : Call M} {t : TwoMlsPqSession M}
    (h : CoreOnly t (call.run.run t).2) : t.sinkInstalled = true := by
  by_cases hinstall : call = .installSink
  · subst hinstall
    refine absurd h (Pushed.not_coreOnly ?_)
    change Pushed _ t ((handing installSink fun _ => []).run t).2
    rw [handing_run]
    exact pushes_installSink t
  · cases hsink : t.sinkInstalled with
    | true => rfl
    | false =>
        have hwired : Wired false t.pushed (call.run.run t).2 :=
          wired_call call hinstall t ⟨hsink, fun _ => rfl⟩
        exact absurd h (not_coreOnly_silent (hwired.2 rfl))

theorem Backed.installs {t : TwoMlsPqSession M} (h : Backed t)
    (hsend : HoldsSend ((installSink (M := M)).run t).2.inner) :
    Backed ((installSink (M := M)).run t).2 := by
  unfold installSink at hsend ⊢
  rw [Op.run_bind_ok (Op.run_state t)] at hsend ⊢
  cases hsink : t.sinkInstalled with
  | true => exact h
  | false =>
      rw [hsink] at hsend
      exact backed_encodeCheckpoint L T (u := { t with sinkInstalled := true }) hsend

theorem Backed.called (A : AtomicProposals M) {t : TwoMlsPqSession M} {call : Call M}
    (h : Backed t) (hkeeps : KeepsBacking t (.host (.call call)))
    (hsend : HoldsSend (call.run.run t).2.inner) : Backed (call.run.run t).2 := by
  by_cases hinstall : call = .installSink
  · subst hinstall
    change HoldsSend ((handing installSink fun _ => []).run t).2.inner at hsend
    change Backed ((handing installSink fun _ => []).run t).2
    rw [handing_run] at hsend ⊢
    exact h.installs L T hsend
  have hwired : Wired t.sinkInstalled t.pushed (call.run.run t).2 :=
    wired_call call hinstall t ⟨rfl, fun _ => rfl⟩
  cases hsink : t.sinkInstalled with
  | false => exact Backed.unplugged (hwired.1.trans hsink)
  | true =>
      rcases hkeeps call rfl hsink with ⟨hseq, hcall⟩
      rcases (call_pushesLast call t).ends L T hsend with hsilent | hcore | hbacked
      · exact h.same hwired.1 (congrArg (latest .checkpoint) hsilent)
          (silentlySpares_call L T A hinstall hcall hsink hseq hsend hsilent)
      · exact h.same hwired.1 hcore.latest_checkpoint (call_same L A T hcall.1 hcore)
      · exact hbacked

omit L T in
theorem Backed.restarted {t : TwoMlsPqSession M} (h : Backed t) : Backed t.restarted := by
  unfold TwoMlsPqSession.restarted
  split
  · exact Backed.unplugged rfl
  · exact h

theorem backed_reopened {t : TwoMlsPqSession M} (h : Sound false t.inner) :
    Backed t.reopened := by
  rcases (completes_encodeBlob T .checkpoint).result h.sendGroup with ⟨a, hencoded, -⟩
  have hrun : (encodeBlob .checkpoint).run t.inner =
      (.ok a, ((encodeBlob .checkpoint).run t.inner).2) := Prod.ext hencoded rfl
  rcases (sound_encodeBlob T .checkpoint t.inner h).opens T (encodeBlob_pictures hrun)
    (encodeBlob_archived L hrun) with ⟨r, hopened⟩
  unfold TwoMlsPqSession.reopened
  rw [hrun]
  dsimp only
  rw [hopened]
  exact Backed.unplugged rfl

theorem CheckpointsLast.backed {t : TwoMlsPqSession M} {a : LifeAction M}
    (h : CheckpointsLast t (t.live a)) (hsend : HoldsSend (t.live a).inner) :
    Backed (t.live a) := by
  have hloud : (t.live a).pushed ≠ t.pushed := by
    intro hsilent
    rcases h with ⟨new, p, hpushed, -⟩
    rw [hsilent, List.append_assoc] at hpushed
    exact absurd (List.self_eq_append_right.mp hpushed)
      (List.append_ne_nil_of_right_ne_nil new (List.cons_ne_nil p []))
  cases a with
  | reopen => exact absurd t.pushed_reopened hloud
  | host a =>
      cases a with
      | restart => exact absurd t.pushed_restarted hloud
      | call call =>
          rcases (call_pushesLast call t).ends L T hsend with hsilent | hcore | hbacked
          · exact absurd hsilent hloud
          · rcases h with ⟨new, p, hpushed, hkind⟩
            rw [List.append_assoc] at hpushed
            exact absurd hcore (not_coreOnly_checkpoint hpushed
              (List.mem_append_right new (List.mem_singleton_self p)) hkind)
          · exact hbacked

theorem backed_run (A : AtomicProposals M) {s : SessionInner M} (born : Born s)
    {t₀ : TwoMlsPqSession M}
    (life : Run TwoMlsPqSession.live (fun _ _ => True) (TwoMlsPqSession.fresh s) t₀)
    {a : LifeAction M} (hcheckpoints : CheckpointsLast t₀ (t₀.live a))
    {t : TwoMlsPqSession M} (run : Run TwoMlsPqSession.live KeepsBacking (t₀.live a) t) :
    Carried (Conserved (Sound false) (Photo (Sound false))) t ∧ Backed t := by
  have hlasting := lasting_sound T L
  have hlives : forall (t : TwoMlsPqSession M) (a : LifeAction M),
      Carried (Conserved (Sound false) (Photo (Sound false))) t ->
        Carried (Conserved (Sound false) (Photo (Sound false))) (t.live a) :=
    fun _ a => hlasting.carries.live (fun _ => hlasting.restarted)
      (fun _ => hlasting.reopened) a
  have hstart : Carried (Conserved (Sound false) (Photo (Sound false))) t₀ :=
    life.invariant (fun t a hI _ => hlives t a hI)
      ⟨born.sound T, fun _ hp => absurd hp List.not_mem_nil⟩
  have hbegins := hlives t₀ a hstart
  refine run.invariant
    (I := fun t => Carried (Conserved (Sound false) (Photo (Sound false))) t ∧ Backed t)
    ?_ ⟨hbegins, hcheckpoints.backed L T hbegins.1.sendGroup⟩
  rintro t a ⟨hsound, hbacked⟩ hkeeps
  have hafter := hlives t a hsound
  refine ⟨hafter, ?_⟩
  cases a with
  | reopen => exact backed_reopened L T hsound.1
  | host a =>
      cases a with
      | restart => exact hbacked.restarted
      | call call => exact hbacked.called L T A hkeeps hafter.1.sendGroup

/-- A call that pushes only a Core leaves both post-quantum halves as they were, as
long as it discharges no bind and stages no A.5 on the last count.  Behind a
Checkpoint, as long as every call in between did so too and no receive failed with a
half written, a restore from the new Core and the Checkpoint reloads the halves the
session has. -/
theorem core_only_call_leaves_pq (A : AtomicProposals M) :
    (forall (t : TwoMlsPqSession M) (call : Call M), call.LeavesPq t.inner ->
      CoreOnly t (call.run.run t).2 ->
        SamePqHalves t.inner (call.run.run t).2.inner) ∧
      forall s, Born s ->
        forall t₀, Run TwoMlsPqSession.live (fun _ _ => True)
            (TwoMlsPqSession.fresh s) t₀ ->
          forall a, CheckpointsLast t₀ (t₀.live a) ->
            forall t, Run TwoMlsPqSession.live KeepsBacking (t₀.live a) t ->
              forall call : Call M, call.LeavesPq t.inner ->
                CoreOnly t (call.run.run t).2 ->
                  forall s', restore (call.run.run t).2.pushed = .ok s' ->
                    forall h : Half, h.isPq = true ->
                      ReloadedAs ((call.run.run t).2.inner.half h) (s'.half h) := by
  constructor
  · intro t call hleaves hcore
    exact call_same L A T hleaves hcore
  · intro s born t₀ life a hcheckpoints t run call hleaves hcore s' hrestored h hpq
    have hbacked := (backed_run L T A born life hcheckpoints run).2
    rcases hbacked hcore.sink with ⟨ck, hlatest, hcarries⟩
    rw [← hcore.latest_checkpoint] at hlatest
    exact restore_reloads hlatest (hcarries.same (call_same L A T hleaves hcore))
      hrestored hpq

end

end

/-!
## A send before and after the bind
-/

section

variable {M : MlsRs}

theorem coreOnly_of_length {t t' : TwoMlsPqSession M}
    (h : Pushed (fun kind => kind = .core) t t')
    (hlength : t.pushed.length < t'.pushed.length) :
    CoreOnly t t' := by
  rcases h with ⟨new, hnew, hcore⟩
  refine ⟨new, hnew, ?_, hcore⟩
  rintro rfl
  rw [hnew, List.append_nil] at hlength
  exact Nat.lt_irrefl _ hlength

theorem coreOnly_prepareToEncrypt {proposing : Option Bytes}
    {rnd : Nat -> M.Seed} {t : TwoMlsPqSession M}
    (hlength : t.pushed.length <
      ((Call.prepareToEncrypt proposing rnd).run.run t).2.pushed.length) :
    CoreOnly t ((Call.prepareToEncrypt proposing rnd).run.run t).2 := by
  refine coreOnly_of_length ?_ hlength
  have hpushes := pushes_mutateAndPersist (K := fun kind => kind = .core)
    (k := .core) rfl (prepareToEncryptInner proposing rnd) t
  change Pushed _ t ((handing (prepareToEncrypt proposing rnd) _).run t).2
  rw [handing_run]
  exact hpushes

theorem Filing.pushed {t t' : TwoMlsPqSession M} (h : Filing t t') :
    Pushed (fun _ => True) t t' := by
  have hencodes : forall kind (u : TwoMlsPqSession M),
      Pushed (fun _ => True) u ((encodeAndPush kind).run u).2 :=
    fun kind u => pushes_encodeAndPush True.intro u
  cases h with
  | silent t' h => exact Pushed.refl h
  | once kind u h => exact (Pushed.refl h).trans (hencodes kind u)
  | twice u h =>
      exact (Pushed.refl h).trans ((hencodes .core u).trans
        ((Pushed.refl rfl).trans (hencodes .checkpoint _)))

theorem checkpointsLast_of_kind {call : Call M} {t : TwoMlsPqSession M}
    (hlength : t.pushed.length < (t.live (.host (.call call))).pushed.length)
    (hkind : (t.live (.host (.call call))).pushed.getLast?.map Push.kind =
      some .checkpoint) :
    CheckpointsLast t (t.live (.host (.call call))) := by
  rcases (call_pushesLast call t).pushed with ⟨new, hpushed, -⟩
  change (t.live (.host (.call call))).pushed = t.pushed ++ new at hpushed
  rw [hpushed] at hlength hkind
  cases hlast : new.getLast? with
  | none =>
      rw [List.getLast?_eq_none_iff.mp hlast, List.append_nil] at hlength
      exact absurd hlength (Nat.lt_irrefl _)
  | some p =>
      rcases List.getLast?_eq_some_iff.mp hlast with ⟨older, rfl⟩
      refine ⟨older, p, by rw [hpushed, List.append_assoc], ?_⟩
      rw [List.getLast?_append, hlast] at hkind
      exact Option.some.inj hkind

end

namespace ReferencePair

def owing : TwoMlsPqSession Reference.mls :=
  (world.play bootstrapBind).session .left

def nextSend : Call Reference.mls :=
  .prepareToEncrypt none (rnd 4200)

theorem coreOnly_nextSend {t : TwoMlsPqSession Reference.mls}
    (hlength : t.pushed.length < (nextSend.run.run t).2.pushed.length) :
    CoreOnly t (nextSend.run.run t).2 := by
  unfold nextSend at hlength ⊢
  exact coreOnly_prepareToEncrypt hlength

set_option maxRecDepth 4000 in
theorem owing_hosted :
    Run TwoMlsPqSession.host (fun _ _ => True) (TwoMlsPqSession.fresh initiator)
      owing := by
  have hworld : Run World.act (fun _ _ => True) world (world.play bootstrapBind) := by
    apply World.run_play
    intro _ _ _ _ _
    exact True.intro
  exact World.run_host .left (fun _ _ _ => True.intro) (fun _ _ => True.intro) hworld

def spentLeaves (s : SessionInner Reference.mls) : Option (List Nat) :=
  (s.half .sendPq).map Reference.Group.spent

theorem owing_spends :
    owing.pushed.length < (nextSend.run.run owing).2.pushed.length ∧
      spentLeaves (nextSend.run.run owing).2.inner ≠ spentLeaves owing.inner := by
  decide +kernel

/-- Both sessions with the bind on its way to the acceptor. -/
def discharged : World Reference.mls :=
  world.play (bootstrapBind ++ send .left 4200)

def binding : LifeAction Reference.mls :=
  .host (.call (.processIncoming (((discharged.sent .left)[2]?).getD .unknown) none))

def boundAcceptor : TwoMlsPqSession Reference.mls :=
  (discharged.session .right).live binding

def sendingAcceptor : TwoMlsPqSession Reference.mls :=
  boundAcceptor.live (.host (.call nextSend))

set_option maxRecDepth 4000 in
theorem discharged_live :
    Run TwoMlsPqSession.live (fun _ _ => True) (TwoMlsPqSession.fresh acceptor)
      (discharged.session .right) :=
  World.run_live .right (world.run_played (bootstrapBind ++ send .left 4200))

theorem boundAcceptor_pushes :
    (discharged.session .right).pushed.length < boundAcceptor.pushed.length ∧
      boundAcceptor.pushed.getLast?.map Push.kind = some .checkpoint ∧
      boundAcceptor.inner.stateSeq < maxSeq ∧
      dischargesBind boundAcceptor.inner = false := by
  decide +kernel

theorem sendingAcceptor_pushes :
    dischargesBind sendingAcceptor.inner = false ∧
      sendingAcceptor.pushed.length <
        (nextSend.run.run sendingAcceptor).2.pushed.length ∧
      (restore (nextSend.run.run sendingAcceptor).2.pushed).toOption.isSome = true := by
  decide +kernel

theorem boundAcceptor_checkpoints :
    CheckpointsLast (discharged.session .right) boundAcceptor :=
  checkpointsLast_of_kind boundAcceptor_pushes.1 boundAcceptor_pushes.2.1

theorem sendingAcceptor_run :
    Run TwoMlsPqSession.live KeepsBacking boundAcceptor sendingAcceptor := by
  refine Run.refl.step ?_
  rintro call hcall -
  cases hcall
  exact ⟨boundAcceptor_pushes.2.2.1, boundAcceptor_pushes.2.2.2,
    fun _ _ _ h => nomatch h⟩

end ReferencePair

/-- The acceptor's second send behind the Checkpoint of the bind pushes one Core and
leaves its post-quantum halves alone, and a restore reloads them. -/
theorem send_after_bind_leaves_pq :
    SamePqHalves ReferencePair.sendingAcceptor.inner
        (ReferencePair.nextSend.run.run ReferencePair.sendingAcceptor).2.inner ∧
      exists s',
        restore (ReferencePair.nextSend.run.run
            ReferencePair.sendingAcceptor).2.pushed = .ok s' ∧
          forall h : Half, h.isPq = true ->
            ReloadedAs
              ((ReferencePair.nextSend.run.run
                ReferencePair.sendingAcceptor).2.inner.half h) (s'.half h) := by
  have hcore : CoreOnly ReferencePair.sendingAcceptor
      (ReferencePair.nextSend.run.run ReferencePair.sendingAcceptor).2 :=
    ReferencePair.coreOnly_nextSend ReferencePair.sendingAcceptor_pushes.2.1
  have hleaves := core_only_call_leaves_pq Reference.lawful Reference.dependable
    Reference.atomicProposals
  have hrestores := ReferencePair.sendingAcceptor_pushes.2.2
  cases hrestored : restore
      (ReferencePair.nextSend.run.run ReferencePair.sendingAcceptor).2.pushed with
  | error e =>
      rw [hrestored] at hrestores
      cases hrestores
  | ok s' =>
      refine ⟨hleaves.1 _ _ ReferencePair.sendingAcceptor_pushes.1 hcore, s', rfl, ?_⟩
      exact hleaves.2 _ ReferencePair.acceptor_born _ ReferencePair.discharged_live
        ReferencePair.binding ReferencePair.boundAcceptor_checkpoints _
        ReferencePair.sendingAcceptor_run ReferencePair.nextSend
        ReferencePair.sendingAcceptor_pushes.1 hcore s' hrestored

/-- The initiator's next send discharges the owed bind: the sink gets a Core,
and the post-quantum send half has one exporter leaf less. -/
theorem send_with_owed_bind_spends_pq_leaf :
    ¬ forall (s : SessionInner Reference.mls) (t : TwoMlsPqSession Reference.mls)
        (call : Call Reference.mls),
      Born s ->
        Run TwoMlsPqSession.host (fun _ _ => True) (TwoMlsPqSession.fresh s) t ->
        CoreOnly t (call.run.run t).2 ->
          SamePqHalves t.inner (call.run.run t).2.inner := by
  intro hall
  have hsame := hall _ _ ReferencePair.nextSend ReferencePair.initiator_born
    ReferencePair.owing_hosted
    (ReferencePair.coreOnly_nextSend ReferencePair.owing_spends.1)
  apply ReferencePair.owing_spends.2
  unfold ReferencePair.spentLeaves
  rw [hsame.1]

end Session
end TwoMlsPq
