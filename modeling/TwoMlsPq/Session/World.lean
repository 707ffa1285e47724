import TwoMlsPq.Apq.Reference
import TwoMlsPq.Foundation.Runs
import TwoMlsPq.Session.Doors

/-!
# Two sessions and the frames between them

A world is a pair of sessions and the frames each has handed out.  Any frame
ever handed out may be delivered to the other side at any time, any number of
times, or never, so loss, duplication and reordering need no rules of their
own.  A host may also drop a session and restore it from its newest blobs.  The
module ends with two sessions on the reference library and the scripts that
drive them.
-/

namespace TwoMlsPq
namespace Session

open Foundation Apq

inductive Side where
  | left
  | right
deriving DecidableEq, Repr

def Side.other : Side -> Side
  | left => right
  | right => left

structure World (M : MlsRs) where
  session : Side -> TwoMlsPqSession M
  sent : Side -> List (Frame M)

inductive Action (M : MlsRs) where
  | call (side : Side) (call : Call M)
  | restore (side : Side)

section

variable {M : MlsRs}

namespace TwoMlsPqSession

def fresh (s : SessionInner M) : TwoMlsPqSession M :=
  { inner := s, sinkInstalled := false, pushed := [] }

/-- The host restarts from the newest pushed blobs; without them it keeps what
it has. -/
def restarted (t : TwoMlsPqSession M) : TwoMlsPqSession M :=
  match restore t.pushed with
  | .ok s => { t with inner := s, sinkInstalled := false }
  | .error _ => t

end TwoMlsPqSession

namespace World

def core (w : World M) (side : Side) : Core M :=
  (w.session side).inner.core

def act (w : World M) : Action M -> World M
  | .call side call =>
      let r := call.run.run (w.session side)
      { session := Function.update w.session side r.2
        sent :=
          Function.update w.sent side
            (w.sent side ++
              match r.1 with
              | .ok frames => frames
              | .error _ => []) }
  | .restore side =>
      { w with
        session :=
          Function.update w.session side (w.session side).restarted }

/-- A call is handed only what the other side has sent. -/
def Delivers (w : World M) : Action M -> Prop
  | .call side call => forall f, call.delivered = some f -> f ∈ w.sent side.other
  | .restore _ => True

def Calls (w : World M) (a : Action M) : Prop :=
  w.Delivers a ∧ exists side call, a = .call side call

def initial (left right : SessionInner M) : World M :=
  { session := fun side =>
      match side with
      | .left => TwoMlsPqSession.fresh left
      | .right => TwoMlsPqSession.fresh right
    sent := fun _ => [] }

def handedOut (w : World M) (side : Side) (call : Call M) : List (Frame M) :=
  match (call.run.run (w.session side)).1 with
  | .ok frames => frames
  | .error _ => []

theorem other_ne (side : Side) : side.other ≠ side := by
  cases side <;> decide

theorem eq_or_other (side side' : Side) : side' = side ∨ side' = side.other := by
  cases side <;> cases side' <;> simp [Side.other]

@[simp]
theorem other_other (side : Side) : side.other.other = side := by
  cases side <;> rfl

@[simp]
theorem core_call (w : World M) (side : Side) (call : Call M) :
    (w.act (.call side call)).core side =
      (call.run.run (w.session side)).2.inner.core := by
  simp [core, act]

@[simp]
theorem core_call_other (w : World M) (side : Side) (call : Call M) :
    (w.act (.call side call)).core side.other = w.core side.other := by
  simp [core, act, Function.update_of_ne (other_ne side)]

@[simp]
theorem sent_call (w : World M) (side : Side) (call : Call M) :
    (w.act (.call side call)).sent side = w.sent side ++ w.handedOut side call := by
  simp only [act, handedOut, Function.update_self]

@[simp]
theorem sent_call_other (w : World M) (side : Side) (call : Call M) :
    (w.act (.call side call)).sent side.other = w.sent side.other := by
  simp [act, Function.update_of_ne (other_ne side)]

theorem emitted_handedOut (L : Lawful M) {w : World M} {side : Side}
    {call : Call M} {f : Frame M} (hf : f ∈ w.handedOut side call) :
    EmittedBy (w.core side) f := by
  unfold handedOut at hf
  cases hrun : (call.run.run (w.session side)).1 with
  | error e =>
      rw [hrun] at hf
      cases hf
  | ok frames =>
      rw [hrun] at hf
      exact call_emits L hrun hf

end World

/-- The initiator's session, and the session its peer accepts from the welcome
the initiator staples. -/
inductive Established : SessionInner M -> SessionInner M -> Prop
  | accepted {initiator acceptor : SessionInner M}
      {client : TwoMlsPqPrincipal M} {services : Services}
      {theirKp : CombinerKeyPackage M} {appBinding : Option Bytes}
      {rnd : Nat -> M.Seed}
      {invited : TwoMlsPqPrincipal M}
      {dedicated : Option (TwoMlsPqPrincipal M × Services)}
      {invitedServices : Services} {welcome : WelcomeBytes M} {returnKp : Blob M}
      {commitment : Bytes} {spawnToken expected : Option Bytes}
      {rnd' : Nat -> M.Seed}
      (initiated : initiate client services theirKp appBinding rnd = .ok initiator)
      (stapled : initiator.core.staple = some (.welcome welcome))
      (accepted :
        acceptWith invited dedicated invitedServices welcome returnKp commitment
          spawnToken expected rnd' = .ok acceptor) :
      Established initiator acceptor

/-!
## Facts that survive a restart
-/

/-- A fact about the core that also holds of everything the sink was given. -/
structure Durable (I : Core M -> Prop) (t : TwoMlsPqSession M) : Prop where
  now : I t.inner.core
  pushed : Pictured (fun _ c => I c) t.pushed

namespace Durable

variable {I : Core M -> Prop} {t t' : TwoMlsPqSession M}

theorem fresh {s : SessionInner M} (h : I s.core) :
    Durable I (TwoMlsPqSession.fresh s) :=
  { now := h, pushed := Pictured.nil }

theorem advance {A : Event M -> Prop} (h : Durable I t) (hadvances : Advances A t t')
    (hstep : forall e c c', A e -> Step e c c' -> I c -> I c') :
    Durable I t' := by
  rcases hadvances with ⟨hgoes, new, hpushed, hnew⟩
  refine { now := Path.invariant hstep hgoes h.now, pushed := ?_ }
  rw [hpushed]
  exact h.pushed.append (hnew.mono fun _ _ hc => Path.invariant hstep hc h.now)

theorem advance_along {A : Event M -> Prop} {J : Core M -> Prop}
    (h : Durable I t) (hJ : J t.inner.core) (hadvances : Advances A t t')
    (hstep : forall e c c', A e -> Step e c c' -> J c -> I c -> I c' ∧ J c') :
    Durable I t' := by
  have hpath : forall {c}, Path A t.inner.core c -> I c ∧ J c := fun hpath =>
    hpath.invariant (I := fun c => I c ∧ J c)
      (fun e c c' he hs hc => hstep e c c' he hs hc.2 hc.1) ⟨h.now, hJ⟩
  rcases hadvances with ⟨hgoes, new, hpushed, hnew⟩
  refine { now := (hpath hgoes).1, pushed := ?_ }
  rw [hpushed]
  exact h.pushed.append (hnew.mono fun _ _ hc => (hpath hc).1)

theorem restarted (L : Lawful M) (h : Durable I t)
    (hrecovered : forall c, Recovered (fun _ => I) c -> I c)
    (hrestored : forall c r, Restored c r -> I c -> I r) :
    Durable I t.restarted := by
  unfold TwoMlsPqSession.restarted
  split
  next s hrestore =>
    rcases restore_restored L h.pushed hrestore with ⟨c, hc, hr⟩
    exact { now := hrestored c _ hr (hrecovered c hc), pushed := h.pushed }
  next => exact h

end Durable

/-!
## One session against anybody

Where the peer may be anybody, a run is a run of one session alone, and the
frames it is handed are arbitrary.
-/

inductive HostAction (M : MlsRs) where
  | call (call : Call M)
  | restart

def TwoMlsPqSession.host (t : TwoMlsPqSession M) :
    HostAction M -> TwoMlsPqSession M
  | .call call => (call.run.run t).2
  | .restart => t.restarted

theorem World.run_host {admits : World M -> Action M -> Prop}
    {guard : TwoMlsPqSession M -> HostAction M -> Prop} {w w' : World M}
    (side : Side)
    (hcall : forall w call, admits w (.call side call) ->
      guard (w.session side) (.call call))
    (hrestart : forall w, admits w (.restore side) ->
      guard (w.session side) .restart)
    (run : Run World.act admits w w') :
    Run TwoMlsPqSession.host guard (w.session side) (w'.session side) := by
  induction run with
  | refl => exact Run.refl
  | tail run hlast ih =>
      rename_i w' _
      rcases hlast with ⟨a, ha, rfl⟩
      cases a with
      | call side' call =>
          by_cases hside : side' = side
          · subst hside
            have hnext := ih.step (hcall w' call ha)
            simpa [World.act, TwoMlsPqSession.host] using hnext
          · have hsame : side ≠ side' := fun h => hside h.symm
            simpa [World.act, Function.update_of_ne hsame] using ih
      | restore side' =>
          by_cases hside : side' = side
          · subst hside
            have hnext := ih.step (hrestart w' ha)
            simpa [World.act, TwoMlsPqSession.host] using hnext
          · have hsame : side ≠ side' := fun h => hside h.symm
            simpa [World.act, Function.update_of_ne hsame] using ih

/-- A session as one of the two constructors returns it. -/
inductive Born : SessionInner M -> Prop
  | initiated {s : SessionInner M} {client : TwoMlsPqPrincipal M}
      {services : Services} {theirKp : CombinerKeyPackage M}
      {appBinding : Option Bytes} {rnd : Nat -> M.Seed}
      (h : initiate client services theirKp appBinding rnd = .ok s) : Born s
  | accepted {s : SessionInner M} {client : TwoMlsPqPrincipal M}
      {dedicated : Option (TwoMlsPqPrincipal M × Services)} {services : Services}
      {welcome : WelcomeBytes M} {theirKp : Blob M} {commitment : Bytes}
      {spawnToken expected : Option Bytes} {rnd : Nat -> M.Seed}
      (h : acceptWith client dedicated services welcome theirKp commitment spawnToken
        expected rnd = .ok s) : Born s

/-!
## Scripts
-/

/-- A step of a script.  A delivery names a frame by its place among the frames
the other side has sent. -/
inductive Move (M : MlsRs) where
  | call (side : Side) (door : Call M)
  | deliver (side : Side) (n : Nat) (door : Frame M -> Call M)
  | restore (side : Side)

def Move.action (w : World M) : Move M -> Option (Action M)
  | .call side door => some (.call side door)
  | .deliver side n door =>
      ((w.sent side.other)[n]?).map fun f => .call side (door f)
  | .restore side => some (.restore side)

def World.play (w : World M) : List (Move M) -> World M
  | [] => w
  | move :: rest =>
      match move.action w with
      | some a => (w.act a).play rest
      | none => w.play rest

def Move.Fair : Move M -> Prop
  | .call _ door => door.delivered = none
  | .deliver _ _ door => forall f, (door f).delivered = some f
  | .restore _ => True

def Move.isRestore : Move M -> Bool
  | .restore _ => true
  | _ => false

theorem Move.fair_delivers {w : World M} {move : Move M} {a : Action M}
    (h : move.Fair) (ha : move.action w = some a) :
    w.Delivers a := by
  cases move with
  | call side door =>
      cases ha
      intro f hf
      rw [show door.delivered = none from h] at hf
      cases hf
  | deliver side n door =>
      change ((w.sent side.other)[n]?).map _ = _ at ha
      rw [Option.map_eq_some_iff] at ha
      rcases ha with ⟨f, hf, rfl⟩
      intro f' hf'
      rw [show (door f).delivered = some f from h f] at hf'
      cases hf'
      exact List.mem_of_getElem? hf
  | restore side =>
      cases ha
      exact True.intro

theorem Move.fair_calls {w : World M} {move : Move M} {a : Action M}
    (h : move.Fair) (hcall : move.isRestore = false)
    (ha : move.action w = some a) :
    w.Calls a := by
  refine ⟨Move.fair_delivers h ha, ?_⟩
  cases move with
  | call side door =>
      cases ha
      exact ⟨side, door, rfl⟩
  | deliver side n door =>
      change ((w.sent side.other)[n]?).map _ = _ at ha
      rw [Option.map_eq_some_iff] at ha
      rcases ha with ⟨f, _, rfl⟩
      exact ⟨side, door f, rfl⟩
  | restore side => cases hcall

theorem World.run_play {admits : World M -> Action M -> Prop} {w : World M}
    {script : List (Move M)}
    (h : forall move, move ∈ script ->
      forall w a, move.action w = some a -> admits w a) :
    Run World.act admits w (w.play script) := by
  induction script generalizing w with
  | nil => exact Run.refl
  | cons move rest ih =>
      have hrest := fun m hm => h m (List.mem_cons_of_mem _ hm)
      unfold World.play
      split
      next a ha =>
        exact (Run.refl.step (h move List.mem_cons_self w a ha)).trans (ih hrest)
      next => exact ih hrest

/-- Play a script each step of which is chosen by what the world has come to. -/
def World.enact (w : World M) : List (World M -> Option (Action M)) -> World M
  | [] => w
  | step :: rest =>
      match step w with
      | some a => (w.act a).enact rest
      | none => w.enact rest

def World.passes (check : World M -> Action M -> Bool) (w : World M) :
    List (World M -> Option (Action M)) -> Bool
  | [] => true
  | step :: rest =>
      match step w with
      | some a => check w a && (w.act a).passes check rest
      | none => w.passes check rest

theorem World.run_enact {admits : World M -> Action M -> Prop}
    {check : World M -> Action M -> Bool}
    (hcheck : forall w a, check w a = true -> admits w a) {w : World M}
    {script : List (World M -> Option (Action M))} (h : w.passes check script = true) :
    Run World.act admits w (w.enact script) := by
  induction script generalizing w with
  | nil => exact Run.refl
  | cons step rest ih =>
      unfold World.passes at h
      unfold World.enact
      split at h
      next a ha =>
        rcases (Bool.and_eq_true _ _).mp h with ⟨hfirst, hrest⟩
        exact (Run.refl.step (hcheck w a hfirst)).trans (ih hrest)
      next ha => exact ih h

theorem World.run_calls {w : World M} {script : List (Move M)}
    (h : forall move, move ∈ script -> move.Fair ∧ move.isRestore = false) :
    Run World.act World.Calls w (w.play script) := by
  apply World.run_play
  intro move hmem w a ha
  exact Move.fair_calls (h move hmem).1 (h move hmem).2 ha

def World.holdsAlong (check : World M -> Bool) (w : World M) : List (Move M) -> Bool
  | [] => true
  | move :: rest =>
      match move.action w with
      | some a => check (w.act a) && (w.act a).holdsAlong check rest
      | none => w.holdsAlong check rest

theorem World.holdsAlong_append (check : World M -> Bool) (w : World M)
    (xs ys : List (Move M)) :
    w.holdsAlong check (xs ++ ys) =
      (w.holdsAlong check xs && (w.play xs).holdsAlong check ys) := by
  induction xs generalizing w with
  | nil => rfl
  | cons move rest ih =>
      rw [List.cons_append]
      cases haction : move.action w with
      | none => simp only [World.holdsAlong, World.play, haction, ih]
      | some a =>
          simp only [World.holdsAlong, World.play, haction, ih, Bool.and_assoc]

theorem World.run_calls_along {check : World M -> Bool} {w : World M}
    {script : List (Move M)}
    (h : forall move, move ∈ script -> move.Fair ∧ move.isRestore = false)
    (hcheck : w.holdsAlong check script = true) :
    Run World.act (fun w a => w.Calls a ∧ check (w.act a) = true) w
      (w.play script) := by
  induction script generalizing w with
  | nil => exact Run.refl
  | cons move rest ih =>
      have hrest := fun m hm => h m (List.mem_cons_of_mem _ hm)
      unfold World.holdsAlong at hcheck
      unfold World.play
      split at hcheck
      next a ha =>
        rw [Bool.and_eq_true] at hcheck
        have hfair := h move List.mem_cons_self
        have hfirst := Move.fair_calls hfair.1 hfair.2 ha
        exact (Run.refl.step ⟨hfirst, hcheck.1⟩).trans (ih hrest hcheck.2)
      next => exact ih hrest hcheck

end

/-!
## Two reference sessions
-/

namespace ReferencePair

def client (identity : Bytes) (key : Nat) : TwoMlsPqPrincipal Reference.mls :=
  { handle := 0
    clientId := identity
    suite := ApqCipherSuite.declared
    classicalSigner := key
    pqSigner := key + 1
    classicalKpStore := []
    pqKpStore := [] }

def published (c : TwoMlsPqPrincipal Reference.mls) (nonce : Nat) :
    TwoMlsPqPrincipal Reference.mls :=
  { c with
    classicalKpStore :=
      [{ suite := c.suite.classical
         leaf := ⟨c.clientId, Reference.publicKey c.classicalSigner⟩
         init := nonce }]
    pqKpStore :=
      [{ suite := c.suite.pq
         leaf := ⟨c.clientId, Reference.publicKey c.pqSigner⟩
         init := nonce + 1 }] }

def blob (m : Reference.Message) : Blob Reference.mls :=
  { bytes := m.encode, parsed := some m }

def keyPackage (c : TwoMlsPqPrincipal Reference.mls) (nonce : Nat) :
    CombinerKeyPackage Reference.mls :=
  { classical :=
      blob (.keyPackage c.suite.classical
        ⟨c.clientId, Reference.publicKey c.classicalSigner⟩ nonce)
    pq :=
      blob (.keyPackage c.suite.pq
        ⟨c.clientId, Reference.publicKey c.pqSigner⟩ (nonce + 1)) }

def services (identity : Bytes) : Services :=
  { auth := AuthCore.seeded identity, psks := PskHeap.empty }

def rnd (n : Nat) : Nat -> Reference.mls.Seed :=
  fun i => n + i

def initiatorClient : TwoMlsPqPrincipal Reference.mls :=
  published (client [0xA0] 100) 10

def acceptorClient : TwoMlsPqPrincipal Reference.mls :=
  published (client [0xB0] 200) 20

def initiation : Result (SessionInner Reference.mls) :=
  initiate initiatorClient (services [0xA0]) (keyPackage acceptorClient 20) none
    (rnd 1000)

theorem initiation_isSome : initiation.toOption.isSome = true := by
  decide +kernel

def initiator : SessionInner Reference.mls :=
  initiation.toOption.get initiation_isSome

theorem welcome_isSome : (stapledWelcome initiator).isSome = true := by
  decide +kernel

def welcome : WelcomeBytes Reference.mls :=
  (stapledWelcome initiator).get welcome_isSome

def commitment : Bytes :=
  (initiator.round.bootstrapKp.map Blob.sha256).getD []

def acceptance : Result (SessionInner Reference.mls) :=
  acceptWith acceptorClient none (services [0xB0]) welcome
    (keyPackage initiatorClient 10).classical commitment none none (rnd 2000)

theorem acceptance_isSome : acceptance.toOption.isSome = true := by
  decide +kernel

def acceptor : SessionInner Reference.mls :=
  acceptance.toOption.get acceptance_isSome

theorem eq_ok_of_isSome {α : Type} {r : Result α} (h : r.toOption.isSome = true) :
    r = .ok (r.toOption.get h) := by
  cases r with
  | ok a => rfl
  | error e => exact nomatch h

theorem established : Established initiator acceptor := by
  have hstapled : initiator.core.staple = some (.welcome welcome) :=
    staple_of_stapledWelcome (Option.some_get welcome_isSome).symm
  exact Established.accepted (eq_ok_of_isSome initiation_isSome) hstapled
    (eq_ok_of_isSome acceptance_isSome)

def world : World Reference.mls :=
  World.initial initiator acceptor

def moves (script : List (Move Reference.mls)) :
    List (World Reference.mls -> Option (Action Reference.mls)) :=
  script.map fun move w => move.action w

def receive (side : Side) (n : Nat) : Move Reference.mls :=
  .deliver side n fun f => .processIncoming f none

def send (side : Side) (n : Nat) : List (Move Reference.mls) :=
  [.call side (.prepareToEncrypt none (rnd n)),
    .call side (.encrypt [1] (rnd (n + 50)))]

def greeting : List (Move Reference.mls) :=
  [.call .left .installSink, .call .right .installSink] ++
    send .right 3000 ++ [receive .left 0] ++
    send .left 3100 ++ [receive .right 0]

/-- The A.3 round up to the bind that the initiator then owes. -/
def bootstrapBind : List (Move Reference.mls) :=
  greeting ++
    [.call .left (.pqBootstrapBegin none),
      .deliver .right 1 fun f => .pqBootstrapRespond f (rnd 4000),
      .call .right (.pqPendingOutbound true),
      .deliver .left 1 fun f => .pqBootstrapBind f (4100 : Nat)]

def bootstrap : List (Move Reference.mls) :=
  bootstrapBind ++ send .left 4200 ++ [receive .right 2]

theorem bootstrap_calls :
    Run World.act World.Calls world (world.play bootstrap) := by
  apply World.run_calls
  simp [bootstrap, bootstrapBind, greeting, send, receive, Move.Fair, Move.isRestore,
      Call.delivered]

end ReferencePair

end Session
end TwoMlsPq
