import TwoMlsPq.Session.Birth
import TwoMlsPq.Session.Persisting
import TwoMlsPq.Session.Wedge

/-!
# The establishment envelope

An acceptor with a dedicated principal owes its peer an envelope that vouches
for its welcome.  Until the host has installed one the session lets nothing out
and keeps the bare welcome it was born with; from then on every establishment
frame it sends is that welcome in that envelope.
-/

namespace TwoMlsPq
namespace Session

open Foundation Apq

section

variable {M : MlsRs}

/-!
## The gate
-/

/-- The session owes an envelope that it does not have. -/
def Gated (c : Core M) : Prop :=
  c.delegates = true ∧ c.envelope = none

theorem run_gate {s : SessionInner M} (h : Gated s.core) :
    ensureEstablishmentDelegated.run s =
      (.error .establishmentEnvelopeRequired, s) := by
  have hrequires : s.establishment.requiresEstablishmentEnvelope = true := h.1
  have hmissing : s.establishment.establishmentEnvelope = none := h.2
  unfold ensureEstablishmentDelegated
  rw [Op.run_bind_ok (Op.run_state s)]
  apply Op.run_ensure_not
  rw [hrequires, hmissing]
  exact fun h => h.elim (fun h => nomatch h) fun h => nomatch h

theorem run_prepareInner_gated {s : SessionInner M} (h : Gated s.core)
    (proposing : Option Bytes) (rnd : Nat -> M.Seed) :
    (prepareToEncryptInner proposing rnd).run s =
      (.error .establishmentEnvelopeRequired, s) := by
  unfold prepareToEncryptInner
  exact Op.run_bind_error (run_gate h)

theorem run_encryptInner_gated {s : SessionInner M} (h : Gated s.core)
    (appMessage : Bytes) (rnd : Nat -> M.Seed) :
    (encryptInner appMessage rnd).run s =
      (.error .establishmentEnvelopeRequired, s) := by
  unfold encryptInner
  exact Op.run_bind_error (run_gate h)

theorem run_attempt_gate {t : TwoMlsPqSession M} (h : Gated t.inner.core) :
    (Op.attempt (locked (ensureEstablishmentDelegated (M := M)))).run t =
      (.ok (.error .establishmentEnvelopeRequired), t) := by
  unfold locked
  rw [Op.run_attempt, Op.run_ofResult, run_gate h]

theorem mutateAndPersist_refused (L : Lawful M) {α : Type} (kind : BlobKind)
    (x : SessionOp M α) {t : TwoMlsPqSession M} {e : TwoMlsPqError}
    (hx : forall s : SessionInner M, s.core = t.inner.core ->
      x.run s = (.error e, s)) :
    Advances quietEvents t ((mutateAndPersist kind x).run t).2 ∧
      exists e', ((mutateAndPersist kind x).run t).1 = .error e' := by
  rcases mutateAndPersist_runs L kind x t with
    ⟨s, hs, ⟨hgoes, new, hpushed, hnew⟩, hok⟩
  have hrun := hx s hs
  rw [hrun] at hgoes hnew hok
  constructor
  · refine ⟨?_, new, hpushed, ?_⟩
    · change Path quietEvents t.inner.core _
      rw [← hs]
      exact hgoes
    · rw [← hs]
      exact hnew
  · cases hresult : ((mutateAndPersist kind x).run t).1 with
    | error e' => exact ⟨e', rfl⟩
    | ok a => cases hok a hresult

def Call.Composes : Call M -> Prop
  | .prepareToEncrypt _ _ => True
  | .encrypt _ _ => True
  | _ => False

theorem run_handing {α : Type} (x : ApiOp M α) (frames : α -> List (Frame M))
    (t : TwoMlsPqSession M) :
    ((handing x frames).run t).2 = (x.run t).2 := by
  unfold handing
  exact Op.run_bind_still (fun _ => Op.Still.value _) t

theorem prepareToEncrypt_refused (L : Lawful M) {t : TwoMlsPqSession M}
    (h : Gated t.inner.core) (proposing : Option Bytes) (rnd : Nat -> M.Seed) :
    Advances quietEvents t ((prepareToEncrypt proposing rnd).run t).2 ∧
      exists e, ((prepareToEncrypt proposing rnd).run t).1 = .error e := by
  apply mutateAndPersist_refused L
  intro s hs
  rw [← hs] at h
  exact run_prepareInner_gated h proposing rnd

theorem encrypt_refused (L : Lawful M) {t : TwoMlsPqSession M}
    (h : Gated t.inner.core) (appMessage : Bytes) (rnd : Nat -> M.Seed) :
    Advances quietEvents t ((encrypt appMessage rnd).run t).2 ∧
      exists e, ((encrypt appMessage rnd).run t).1 = .error e := by
  have hrefused := mutateAndPersist_refused L .core (encryptInner appMessage rnd)
    (t := t) (fun s hs => by
      rw [← hs] at h
      exact run_encryptInner_gated h appMessage rnd)
  rcases hrefused with ⟨hadvances, e, he⟩
  have hrun : (encrypt appMessage rnd).run t =
      (.error e, ((mutateAndPersist .core (encryptInner appMessage rnd)).run t).2) := by
    unfold encrypt
    apply Op.run_bind_error
    rw [← he]
  rw [hrun]
  exact ⟨hadvances, e, rfl⟩

theorem composes_refused (L : Lawful M) {t : TwoMlsPqSession M}
    (h : Gated t.inner.core) {call : Call M} (hcall : call.Composes) :
    Advances quietEvents t (call.run.run t).2 := by
  cases call with
  | prepareToEncrypt proposing rnd =>
      have hrefused := (prepareToEncrypt_refused L h proposing rnd).1
      unfold Call.run
      rw [run_handing]
      exact hrefused
  | encrypt appMessage rnd =>
      have hrefused := (encrypt_refused L h appMessage rnd).1
      unfold Call.run
      rw [run_handing]
      exact hrefused
  | _ => exact hcall.elim

/-!
## The hand-outs behind the gate
-/

theorem pendingOutbound_gated {t : TwoMlsPqSession M} (h : Gated t.inner.core) :
    (pendingOutbound (M := M)).run t = (.ok none, t) := by
  unfold pendingOutbound
  rw [Op.run_bind_ok (run_attempt_gate h), Op.run_bind_ok (Op.run_state t)]
  rfl

theorem pqPendingOutbound_gated {t : TwoMlsPqSession M} (h : Gated t.inner.core)
    (stable : Bool) :
    (pqPendingOutbound (M := M) stable).run t = (.ok none, t) := by
  unfold pqPendingOutbound
  rw [Op.run_bind_ok (run_attempt_gate h)]
  rfl

theorem pqTakePendingOutbound_gated {t : TwoMlsPqSession M}
    (h : Gated t.inner.core) :
    (pqTakePendingOutbound (M := M)).run t = (.ok none, t) := by
  unfold pqTakePendingOutbound
  rw [Op.run_bind_ok (run_attempt_gate h), Op.run_bind_ok (Op.run_state t)]
  rfl

theorem bootstrapBeginGuard_refuses {s : SessionInner M} {rotating : Option Bytes}
    (hkp : s.round.bootstrapKp = none)
    (hidle : s.round.pqInflight ≠ some .bootstrapInitiated) :
    exists e, ((bootstrapBeginGuard rotating).run s).1 = .error e := by
  have hnever : Op.Triple (fun s' => s' = s) (bootstrapBeginGuard rotating)
      (fun _ _ => False) fun _ _ => True := by
    unfold bootstrapBeginGuard
    refine Op.Triple.reading fun s' hs' => ?_
    subst hs'
    refine Op.Triple.looking (Op.Still.ensure _ _) (fun _ _ _ => True.intro) fun _ => ?_
    refine Op.Triple.looking (Op.Still.ensure _ _) (fun _ _ _ => True.intro) fun _ => ?_
    refine Op.Triple.looking (Op.Still.ensure _ _) (fun _ _ _ => True.intro) fun _ => ?_
    rw [if_neg hidle]
    intro s'' _
    have hnone : ¬ s'.round.bootstrapKp.isSome = true := by
      rw [hkp]
      exact fun h => nomatch h
    rw [Op.run_bind_error (Op.run_ensure_not hnone _ s'')]
    exact True.intro
  have hrun := hnever s rfl
  cases hresult : ((bootstrapBeginGuard rotating).run s).1 with
  | error e => exact ⟨e, rfl⟩
  | ok retained =>
      rw [hresult] at hrun
      exact hrun.elim

theorem run_guarded_error {α β : Type} {guard : SessionOp M α} {body : α -> ApiOp M β}
    {t : TwoMlsPqSession M} {e : TwoMlsPqError}
    (h : (guard.run t.inner).1 = .error e) :
    ((locked guard >>= body).run t).1 = .error e := by
  have hlocked : (locked guard).run t =
      (.error e, { t with inner := (guard.run t.inner).2 }) := by
    unfold locked
    rw [Op.run_ofResult, h]
  rw [Op.run_bind_error hlocked]

theorem pqBootstrapBegin_refused {t : TwoMlsPqSession M} {rotating : Option Bytes}
    (hkp : t.inner.core.bootstrapKp = none)
    (hidle : t.inner.core.inflight ≠ some .bootstrapInitiated) :
    exists e, ((pqBootstrapBegin (M := M) rotating).run t).1 = .error e := by
  rcases bootstrapBeginGuard_refuses hkp hidle with ⟨e, he⟩
  exact ⟨e, run_guarded_error he⟩

theorem pqBootstrapEnvelope_refused {t : TwoMlsPqSession M} {seed : M.Seed}
    (htarget : t.inner.core.sealTarget = none) :
    exists e, ((pqBootstrapEnvelope seed).run t).1 = .error e := by
  have hnone : t.inner.establishment.initialTheirKp = none := htarget
  have hguard : ((bootstrapEnvelopeGuard seed).run t.inner).1 =
      .error .sessionNotReady := by
    unfold bootstrapEnvelopeGuard
    rw [Op.run_bind_ok (Op.run_state t.inner), hnone]
    rfl
  exact ⟨_, run_guarded_error hguard⟩

/-!
## The invariant
-/

/-- A staple made by a commit of the session's own. -/
def Staple.Committed : Staple M -> Prop
  | .commit _ => True
  | .bind _ _ => True
  | _ => False

/-- A session that was born owing an envelope, with the welcome it was born
with. -/
structure Delegating (w₀ : WelcomeBytes M) (c : Core M) : Prop where
  delegates : c.delegates = true
  unpackaged : c.bootstrapKp = none
  unsealing : c.sealTarget = none
  answering : c.inflight ≠ some .bootstrapInitiated
  bare : c.envelope = none -> c.staple = some (.welcome w₀)
  framed : forall e, c.envelope = some e -> forall st, c.staple = some st ->
    st = .handoff e w₀ ∨ st.Committed
  parked : forall e, c.envelope = some e -> forall out, c.outbound = some out ->
    out = .staple (.handoff e w₀)

variable {w₀ : WelcomeBytes M} {c c' : Core M} {e : Event M}

namespace Delegating

theorem step (hc : Delegating w₀ c) (hstep : Step e c c')
    (hstaples : c.envelope = none -> forall st, e = .setStaple st ->
      ¬ FreshStaple c st) :
    Delegating w₀ c' := by
  cases hstep with
  | quiet hq =>
      rw [hq.2]
      exact { hc with }
  | joinRecv missing missingPq parsed joined joinedPq decoded =>
      exact { hc with unsealing := rfl }
  | setStaple fresh =>
      have hinstalled : c.envelope ≠ none := fun hnone =>
        hstaples hnone _ rfl fresh
      refine
        { hc with
          bare := fun hnone => absurd hnone hinstalled
          framed := ?_ }
      intro e _ st hst
      cases hst
      rcases fresh with ⟨_, _, _, _, _, _, _, _, _, rfl | ⟨_, rfl⟩⟩
      · exact Or.inr True.intro
      · exact Or.inr True.intro
  | envelopStaple bare missing =>
      rename_i envelope w
      have hwelcome : w = w₀ := by
        have hbare := hc.bare missing
        rw [bare] at hbare
        cases hbare
        rfl
      subst hwelcome
      refine { hc with bare := nofun, framed := ?_, parked := ?_ }
      · intro e he st hst
        cases he
        cases hst
        exact Or.inl rfl
      · intro e he out hout
        cases he
        rcases Option.map_eq_some_iff.mp hout with ⟨_, _, rfl⟩
        rfl
  | clearOutbound => exact { hc with parked := fun _ _ => nofun }
  | setOutbound repeats sealing => exact absurd hc.unsealing sealing
  | openRound opened =>
      exact { hc with answering := fun h => opened.round (Option.some.inj h) }
  | registerBootstrap registers => exact absurd hc.unpackaged registers.1
  | respond idle live => exact { hc with answering := nofun }
  | closeRound => exact { hc with answering := nofun }
  | _ => exact { hc with }

theorem stable : Stable (Delegating (M := M) w₀) :=
  fun _ _ hq hc => hc.step (Step.quiet hq) fun _ _ => nofun

theorem recovered (h : Recovered (fun _ => Delegating w₀) c) : Delegating w₀ c := by
  cases h with
  | checkpoint h => exact h
  | spliced h h' => exact { h with }

theorem restored {r : Core M} (hc : Delegating w₀ c) (hr : Restored c r) :
    Delegating w₀ r := by
  rw [hr.2]
  exact { hc with }

end Delegating

theorem setStaple_composes {call : Call M} {st : Staple M}
    (he : call.events c (.setStaple st)) :
    call.Composes ∨ exists envelope w, st = .handoff envelope w := by
  cases call with
  | prepareToEncrypt proposing rnd => exact Or.inl True.intro
  | encrypt appMessage rnd => exact Or.inl True.intro
  | installEstablishmentEnvelope envelope => exact Or.inr he
  | _ => exact he.elim

theorem envelope_step (hstep : Step e c c') (h : c.envelope ≠ none) :
    c'.envelope = c.envelope := by
  cases hstep with
  | quiet hq => rw [hq.2]
  | envelopStaple bare missing => exact absurd missing h
  | _ => rfl

theorem FreshStaple.not_handoff {envelope : Bytes} {w : WelcomeBytes M}
    (h : FreshStaple c (.handoff envelope w)) : False := by
  rcases h with ⟨_, _, _, _, _, _, _, _, _, hform | ⟨_, hform⟩⟩
  · cases hform
  · cases hform

theorem Delegating.live (L : Lawful M) {t : TwoMlsPqSession M} {a : LifeAction M}
    (happroved : Durable Approved t) (h : Durable (Delegating w₀) t) :
    Durable (Delegating w₀) (t.live a) := by
  cases a with
  | reopen => exact h.reopened L stable fun _ _ hr hc => hc.restored hr
  | host a =>
      cases a with
      | restart =>
          exact h.restarted L (fun _ => recovered) fun _ _ hr hc => hc.restored hr
      | call call =>
          by_cases hgated : Gated t.inner.core ∧ call.Composes
          · refine h.advance (composes_refused L hgated.1 hgated.2)
              fun e c c' he hstep hc => ?_
            cases hstep with
            | quiet hq => exact stable c c' hq hc
            | _ => exact he.elim
          · have hadvances := call_advances L call t happroved.now
            refine h.advance_along (J := fun c => call.Composes -> c.envelope ≠ none)
              ?_ hadvances fun e c c' he hstep hinstalled hc => ⟨?_, ?_⟩
            · intro hcomposes hnone
              exact hgated ⟨⟨h.now.delegates, hnone⟩, hcomposes⟩
            · apply hc.step hstep
              rintro hnone st rfl hfresh
              rcases setStaple_composes he with hcomposes | ⟨_, _, rfl⟩
              · exact hinstalled hcomposes hnone
              · exact hfresh.not_handoff
            · intro hcomposes
              have hsome := hinstalled hcomposes
              rw [envelope_step hstep hsome]
              exact hsome

theorem delegating_born (L : Lawful M) {s : SessionInner M} (born : Born s)
    (delegated : s.establishment.requiresEstablishmentEnvelope = true) :
    exists w₀, s.msg.currentStaple = some (.welcome w₀) ∧ Delegating w₀ s.core := by
  cases born with
  | initiated h =>
      have hundelegated := (initiate_born L h).undelegated
      change s.establishment.requiresEstablishmentEnvelope = false at hundelegated
      rw [delegated] at hundelegated
      cases hundelegated
  | accepted h =>
      have hborn := acceptWith_born L h
      rcases hborn.unused.staple with ⟨w₀, hstaple, _⟩
      refine ⟨w₀, hstaple, ?_⟩
      exact
        { delegates := delegated
          unpackaged := hborn.bootstrapKp
          unsealing := hborn.unsealing
          answering := fun hround => by
            rw [hborn.unused.inflight] at hround
            cases hround
          bare := fun _ => hstaple
          framed := fun e he => by
            rw [hborn.envelope] at he
            cases he
          parked := fun e he => by
            rw [hborn.envelope] at he
            cases he }

/-!
## The install
-/

structure Framed (envelope : Bytes) (w₀ : WelcomeBytes M) (c : Core M) : Prop where
  installed : c.envelope = some envelope
  staple : c.staple = some (.handoff envelope w₀)

theorem Framed.quiet {envelope : Bytes} (h : Framed envelope w₀ c) (hq : Quiet c c') :
    Framed envelope w₀ c' := by
  rw [hq.2]
  exact { h with }

theorem run_installEnvelopeInner {s : SessionInner M} (envelope : Bytes)
    (hc : Delegating w₀ s.core) (missing : s.core.envelope = none) :
    exists s', (installEnvelopeInner envelope).run s = (.ok (), s') ∧
      Framed envelope w₀ s'.core := by
  have hrequires : s.establishment.requiresEstablishmentEnvelope = true := hc.delegates
  have hmissing : s.establishment.establishmentEnvelope = none := missing
  have hbare : s.msg.currentStaple = some (.welcome w₀) := hc.bare missing
  have hwelcome : stapledWelcome s = some w₀ := by
    unfold stapledWelcome
    rw [hbare]
  unfold installEnvelopeInner
  rw [Op.run_bind_ok (Op.run_state s),
    Op.run_bind_ok (Op.run_ensure hrequires _ s), hmissing]
  dsimp only
  rw [hwelcome]
  exact ⟨_, rfl, { installed := rfl, staple := rfl }⟩

/-- A session that failed only at encoding what it had become: it was `u` before,
and its sink got nothing. -/
def Unencoded (u t : TwoMlsPqSession M) : Prop :=
  u.sinkInstalled = true ∧ exists e,
    (encodeAndPush .core).run u = (.error e, t) ∧ t.pushed = u.pushed

theorem encodeAndPush_unencoded {u : TwoMlsPqSession M} {e : TwoMlsPqError}
    (h : ((encodeAndPush .core).run u).1 = .error e) :
    Unencoded u ((encodeAndPush .core).run u).2 := by
  cases hsink : u.sinkInstalled with
  | false =>
      unfold encodeAndPush at h
      rw [Op.run_bind_ok (Op.run_state _), hsink] at h
      cases h
  | true =>
      refine ⟨hsink, e, Prod.ext h rfl, ?_⟩
      unfold encodeAndPush at h ⊢
      rw [Op.run_bind_ok (Op.run_state _), hsink, if_pos rfl, Op.run_bind] at h ⊢
      rcases hrun : (locked (encodeBlob .core)).run u with ⟨r, u'⟩
      have hpushed : u'.pushed = u.pushed := by
        have hlocked := unpushed_locked (encodeBlob .core) u
        rw [hrun] at hlocked
        exact hlocked
      rw [hrun] at h
      cases r with
      | error e => exact hpushed
      | ok archive => cases h

theorem install_succeeds (L : Lawful M) {t : TwoMlsPqSession M} {envelope : Bytes}
    (hne : envelope ≠ []) (hc : Delegating w₀ t.inner.core)
    (missing : t.inner.core.envelope = none) :
    Framed envelope w₀
        ((installEstablishmentEnvelope envelope).run t).2.inner.core ∧
      (((installEstablishmentEnvelope envelope).run t).1 = .ok () ∨
        exists u, Framed envelope w₀ u.inner.core ∧ u.pushed = t.pushed ∧
          Unencoded u ((installEstablishmentEnvelope envelope).run t).2) := by
  have hmissing : t.inner.establishment.establishmentEnvelope = none := missing
  have hrun : (installEstablishmentEnvelope envelope).run t =
      (mutateAndPersist .core (installEnvelopeInner envelope)).run t := by
    unfold installEstablishmentEnvelope
    rw [Op.run_bind_ok (Op.run_ensure hne _ t), Op.run_bind_ok (Op.run_state t),
      hmissing]
  rw [hrun]
  constructor
  · rcases mutateAndPersist_runs L .core (installEnvelopeInner envelope) t with
      ⟨s, hs, ⟨hgoes, _⟩, _⟩
    rw [← hs] at hc missing
    rcases run_installEnvelopeInner envelope hc missing with
      ⟨s', hinner, hframed⟩
    rw [hinner] at hgoes
    refine hgoes.invariant (I := Framed envelope w₀) ?_ hframed
    intro e c c' he hstep hc
    cases hstep with
    | quiet hq => exact hc.quiet hq
    | _ => exact he.elim
  · by_cases hseq : t.inner.stateSeq < maxSeq
    · have hbumped : Delegating w₀ (bumped t).inner.core := hc
      rcases run_installEnvelopeInner envelope hbumped missing with
        ⟨s', hinner, hframed⟩
      rw [run_mutateAndPersist_result hseq, run_mutateAndPersist_state hseq, hinner]
      cases hencoded : ((encodeAndPush .core).run
          (mutated (installEnvelopeInner envelope) t)).1 with
      | ok _ => exact Or.inl rfl
      | error e =>
          refine Or.inr ⟨mutated (installEnvelopeInner envelope) t, ?_, rfl, ?_⟩
          · unfold mutated
            rw [hinner]
            exact hframed
          · exact encodeAndPush_unencoded hencoded
    · rcases run_installEnvelopeInner envelope hc missing with
        ⟨s', hinner, _⟩
      rw [run_mutateAndPersist_exhausted hseq]
      unfold locked
      rw [Op.run_ofResult, hinner]
      exact Or.inl rfl

/-!
## What leaves the session
-/

/-- A frame whose establishment part, if it has one, is the welcome in its
envelope. -/
def Frame.Vouched (envelope : Bytes) (w₀ : WelcomeBytes M) : Frame M -> Prop
  | .welcome _ => False
  | .handoff envelope' w => envelope' = envelope ∧ w = w₀
  | .message st _ _ => st = .handoff envelope w₀ ∨ st.Committed
  | _ => True

theorem Delegating.vouches {envelope : Bytes} {f : Frame M}
    (hc : Delegating w₀ c) (installed : c.envelope = some envelope)
    (hf : EmittedBy c f) :
    f.Vouched envelope w₀ := by
  have hbare : forall w, c.staple ≠ some (.welcome w) := by
    intro w hw
    rcases hc.framed envelope installed _ hw with h | h
    · cases h
    · exact h.elim
  cases hf with
  | message staple pending encrypted => exact hc.framed envelope installed _ staple
  | envelope composed mem =>
      rcases mem_envelope_frames mem with ⟨w, hw, rfl⟩ | ⟨app, _, rfl⟩
      · exact absurd (composed.welcome w hw) (hbare w)
      · exact True.intro
  | parked parked mem =>
      rw [hc.parked envelope installed _ parked] at mem
      have hmem : f ∈ (Staple.handoff envelope w₀).frames := mem
      rcases mem_staple_frames hmem with ⟨_, h, _⟩ | ⟨_, _, h, rfl⟩
      · cases h
      · cases h
        exact ⟨rfl, rfl⟩
  | sideBand source => exact True.intro

/-- A session that lets nothing out, and whose install still goes through. -/
structure Withheld (w₀ : WelcomeBytes M) (t : TwoMlsPqSession M) : Prop where
  bare : t.inner.msg.currentStaple = some (.welcome w₀)
  prepare : forall proposing rnd, exists e,
    ((prepareToEncrypt proposing rnd).run t).1 = .error e
  encrypt : forall appMessage rnd, exists e,
    ((Session.encrypt appMessage rnd).run t).1 = .error e
  pending : (pendingOutbound (M := M)).run t = (.ok none, t)
  pqPending : forall stable, (pqPendingOutbound (M := M) stable).run t = (.ok none, t)
  pqTake : (pqTakePendingOutbound (M := M)).run t = (.ok none, t)
  bootstrapBegin : forall rotating, exists e,
    ((pqBootstrapBegin (M := M) rotating).run t).1 = .error e
  bootstrapEnvelope : forall seed, exists e,
    ((pqBootstrapEnvelope (M := M) seed).run t).1 = .error e
  silent : forall (call : Call M) frames,
    (call.run.run t).1 = .ok frames -> frames = []
  installs : forall envelope, envelope ≠ [] ->
    Framed envelope w₀
        ((installEstablishmentEnvelope envelope).run t).2.inner.core ∧
      (((installEstablishmentEnvelope envelope).run t).1 = .ok () ∨
        exists u, Framed envelope w₀ u.inner.core ∧ u.pushed = t.pushed ∧
          Unencoded u ((installEstablishmentEnvelope envelope).run t).2)

/-- A session whose parked copy, staple and frames are the framed welcome. -/
structure Vouching (envelope : Bytes) (w₀ : WelcomeBytes M)
    (t : TwoMlsPqSession M) : Prop where
  installed : t.inner.establishment.establishmentEnvelope = some envelope
  staple : forall st, t.inner.msg.currentStaple = some st ->
    st = .handoff envelope w₀ ∨ st.Committed
  parked : forall out, t.inner.msg.pendingOutbound = some out ->
    out = .staple (.handoff envelope w₀)
  emitted : forall (call : Call M) frames f, (call.run.run t).1 = .ok frames ->
    f ∈ frames -> f.Vouched envelope w₀

theorem Delegating.withheld (L : Lawful M) {t : TwoMlsPqSession M}
    (hc : Delegating w₀ t.inner.core) (missing : t.inner.core.envelope = none) :
    Withheld w₀ t := by
  have hgated : Gated t.inner.core := ⟨hc.delegates, missing⟩
  have hprepare : forall proposing rnd, exists e,
      ((prepareToEncrypt proposing rnd).run t).1 = .error e :=
    fun proposing rnd => (prepareToEncrypt_refused L hgated proposing rnd).2
  have hencrypt : forall appMessage rnd, exists e,
      ((Session.encrypt appMessage rnd).run t).1 = .error e :=
    fun appMessage rnd => (encrypt_refused L hgated appMessage rnd).2
  have hbegin : forall rotating, exists e,
      ((pqBootstrapBegin (M := M) rotating).run t).1 = .error e :=
    fun _ => pqBootstrapBegin_refused hc.unpackaged hc.answering
  have henvelope : forall seed, exists e,
      ((pqBootstrapEnvelope (M := M) seed).run t).1 = .error e :=
    fun _ => pqBootstrapEnvelope_refused hc.unsealing
  refine
    { bare := hc.bare missing
      prepare := hprepare
      encrypt := hencrypt
      pending := pendingOutbound_gated hgated
      pqPending := pqPendingOutbound_gated hgated
      pqTake := pqTakePendingOutbound_gated hgated
      bootstrapBegin := hbegin
      bootstrapEnvelope := henvelope
      silent := ?_
      installs := fun envelope hne => install_succeeds L hne hc missing }
  intro call frames hok
  cases call with
  | pendingOutbound =>
      rcases handing_ok hok with ⟨out, hout, rfl⟩
      rw [pendingOutbound_gated hgated] at hout
      cases hout
      rfl
  | encrypt appMessage rnd =>
      rcases handing_ok hok with ⟨r, hr, rfl⟩
      rcases hencrypt appMessage rnd with ⟨e, he⟩
      rw [he] at hr
      cases hr
  | pqPendingOutbound stable =>
      rcases handing_ok hok with ⟨out, hout, rfl⟩
      rw [pqPendingOutbound_gated hgated] at hout
      cases hout
      rfl
  | pqTakePendingOutbound =>
      rcases handing_ok hok with ⟨out, hout, rfl⟩
      rw [pqTakePendingOutbound_gated hgated] at hout
      cases hout
      rfl
  | pqBootstrapBegin rotating =>
      rcases handing_ok hok with ⟨r, hr, rfl⟩
      rcases hbegin rotating with ⟨e, he⟩
      rw [he] at hr
      cases hr
  | pqBootstrapEnvelope seed =>
      rcases handing_ok hok with ⟨r, hr, rfl⟩
      rcases henvelope seed with ⟨e, he⟩
      rw [he] at hr
      cases hr
  | _ =>
      rcases handing_ok hok with ⟨_, _, rfl⟩
      rfl

theorem Delegating.vouching (L : Lawful M) {t : TwoMlsPqSession M} {envelope : Bytes}
    (hc : Delegating w₀ t.inner.core)
    (installed : t.inner.core.envelope = some envelope) :
    Vouching envelope w₀ t where
  installed := installed
  staple := hc.framed envelope installed
  parked := hc.parked envelope installed
  emitted := fun _ _ _ hok hmem => hc.vouches installed (call_emits L hok hmem)

theorem envelope_kept {envelope : Bytes} (hstep : Step e c c')
    (hc : c.envelope = some envelope) :
    c'.envelope = some envelope := by
  have hsome : c.envelope ≠ none := by
    rw [hc]
    exact fun h => nomatch h
  exact (envelope_step hstep hsome).trans hc

theorem envelope_stable {envelope : Bytes} :
    Stable fun c : Core M => c.envelope = some envelope :=
  fun _ _ hq => envelope_kept (Step.quiet hq)

theorem envelope_live (L : Lawful M) {t : TwoMlsPqSession M} {a : LifeAction M}
    {envelope : Bytes} (happroved : Durable Approved t)
    (h : Durable (fun c => c.envelope = some envelope) t) :
    Durable (fun c => c.envelope = some envelope) (t.live a) := by
  have hrestored : forall c r : Core M, Restored c r -> c.envelope = some envelope ->
      r.envelope = some envelope := by
    intro c r hr hc
    rw [hr.2]
    exact hc
  cases a with
  | reopen => exact h.reopened L envelope_stable hrestored
  | host a =>
      cases a with
      | call call =>
          exact h.advance (call_advances L call t happroved.now)
            fun _ _ _ _ hstep hc => envelope_kept hstep hc
      | restart =>
          refine h.restarted L (fun c hc => ?_) hrestored
          cases hc with
          | checkpoint h => exact h
          | spliced h h' => exact h

/-- A session born owing an envelope lets nothing out until one is installed, and
can install one at any time; from then on, also where it restarts from what the
installing action itself pushed, whatever establishment frame it hands out or keeps
is the welcome it was born with in that envelope. -/
theorem establishment_gate (L : Lawful M) {s : SessionInner M} (born : Born s)
    (delegated : s.establishment.requiresEstablishmentEnvelope = true) :
    exists w₀, s.msg.currentStaple = some (.welcome w₀) ∧
      forall t,
        Run TwoMlsPqSession.live (fun _ _ => True) (TwoMlsPqSession.fresh s) t ->
          (t.inner.establishment.establishmentEnvelope = none -> Withheld w₀ t) ∧
            forall a envelope,
              (t.live a).inner.establishment.establishmentEnvelope = some envelope ->
                forall t',
                  Run TwoMlsPqSession.live (fun _ _ => True) ((t.live a).since t) t' ->
                    Vouching envelope w₀ t' := by
  rcases delegating_born L born delegated with ⟨w₀, hbare, hborn⟩
  refine ⟨w₀, hbare, ?_⟩
  intro t run
  have hkept : forall {u u' : TwoMlsPqSession M},
      Run TwoMlsPqSession.live (fun _ _ => True) u u' ->
        Durable Approved u ∧ Durable (Delegating w₀) u ->
          Durable Approved u' ∧ Durable (Delegating w₀) u' := by
    intro u u' hrun hu
    refine hrun.invariant
      (I := fun u => Durable Approved u ∧ Durable (Delegating w₀) u) ?_ hu
    exact fun _ _ h _ => ⟨approved_live L h.1, Delegating.live L h.1 h.2⟩
  have hborn' : Durable Approved (TwoMlsPqSession.fresh s) ∧
      Durable (Delegating w₀) (TwoMlsPqSession.fresh s) :=
    ⟨Durable.fresh (approved_unused (born.unused L)), Durable.fresh hborn⟩
  constructor
  · exact fun missing => (hkept run hborn').2.now.withheld L missing
  · intro a envelope installed t' later
    have hnow := hkept (run.step (a := a) True.intro) hborn'
    have hlater := later.invariant
      (I := fun u => (Durable Approved u ∧ Durable (Delegating w₀) u) ∧
        Durable (fun c => c.envelope = some envelope) u)
      (fun u a h _ => ⟨⟨approved_live L h.1.1, Delegating.live L h.1.1 h.1.2⟩,
        envelope_live L h.1.1 h.2⟩)
      ⟨⟨Durable.since L Approved.stable hnow.1.now,
          Durable.since L Delegating.stable hnow.2.now⟩,
        Durable.since L envelope_stable installed⟩
    exact hlater.1.2.now.vouching L hlater.2.now

end

/-!
## On the reference pair
-/

namespace ReferencePair

def delegatedAcceptance : Result (SessionInner Reference.mls) :=
  acceptWith acceptorClient (some (client [0xC0] 300, services [0xC0]))
    (services [0xB0]) welcome (keyPackage initiatorClient 10).classical commitment
    none none (rnd 2000)

theorem delegatedAcceptance_isSome :
    delegatedAcceptance.toOption.isSome = true := by
  decide +kernel

def delegate : SessionInner Reference.mls :=
  delegatedAcceptance.toOption.get delegatedAcceptance_isSome

theorem delegate_born : Born delegate :=
  Born.accepted (eq_ok_of_isSome delegatedAcceptance_isSome)

def withheld : TwoMlsPqSession Reference.mls :=
  (TwoMlsPqSession.fresh delegate).live (.host (.call .installSink))

theorem withheld_run :
    Run TwoMlsPqSession.live (fun _ _ => True) (TwoMlsPqSession.fresh delegate)
      withheld := by
  unfold withheld
  exact Run.step Run.refl True.intro

def vouching : LifeAction Reference.mls :=
  .host (.call (.installEstablishmentEnvelope [7]))

end ReferencePair

/-- The delegate withholds its welcome, and vouches for it once an envelope is
in. -/
theorem delegate_withholds_then_vouches :
    exists w₀,
      Withheld w₀ ReferencePair.withheld ∧
        Vouching [7] w₀ ((ReferencePair.withheld.live ReferencePair.vouching).since
          ReferencePair.withheld) := by
  rcases establishment_gate Reference.lawful ReferencePair.delegate_born
    (by decide +kernel) with ⟨w₀, _, hgate⟩
  have hmissing :
      ReferencePair.withheld.inner.establishment.establishmentEnvelope = none := by
    decide +kernel
  have hinstalled : (ReferencePair.withheld.live
      ReferencePair.vouching).inner.establishment.establishmentEnvelope = some [7] := by
    decide +kernel
  have hgated := hgate _ ReferencePair.withheld_run
  exact ⟨w₀, hgated.1 hmissing, hgated.2 _ [7] hinstalled _ Run.refl⟩

end Session
end TwoMlsPq
