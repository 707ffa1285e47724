import TwoMlsPq.Session.Restarts
import TwoMlsPq.Session.Stapling

/-!
# When a frame may leave

An encrypted frame names the counter that its staple was written at, and the host
holds the frame back until the sink has a blob with that number.  From then on no
crash undoes the staple: whatever blobs survive, the restored session carries it or a
later one, and its send group is past the commit the frame carries.
-/

namespace TwoMlsPq
namespace Session

open Foundation Apq

section

variable {M : MlsRs} {α β : Type}

/-!
## Facts along the journal
-/

/-- A fact about the sessions shown and the present one.  Where the counter stands as
it was at the last blob the staple does not change, and a ripe session is past all
blobs. -/
structure Along (J : List (SessionInner M) -> SessionInner M -> Prop) : Prop where
  unbumped : forall shown s s', Moved s s' -> s'.stapling () = s.stapling () ->
    J shown s -> J shown s'
  ripe : forall shown s s', Moved s s' ->
    (forall a, a ∈ shown -> a.stateSeq < s.stateSeq) -> J shown s -> J shown s'
  counted : forall shown s, J shown s -> J shown { s with stateSeq := s.stateSeq + 1 }
  shows : forall shown s, J shown s -> J (shown ++ [s]) s
  reborn : forall shown s r, J shown s -> Reborn s r -> J shown r

def AlongJournal (J : List (SessionInner M) -> SessionInner M -> Prop)
    (s : SessionInner M) (pushed : List (Push M)) : Prop :=
  Unexhausted pushed -> exists shown, Recorded s pushed shown ∧ J shown s

def AlongRipe (J : List (SessionInner M) -> SessionInner M -> Prop)
    (s : SessionInner M) (pushed : List (Push M)) : Prop :=
  Unexhausted pushed -> exists shown, Recorded s pushed shown ∧ J shown s ∧
    forall a, a ∈ shown -> a.stateSeq < s.stateSeq

namespace Along

variable {J : List (SessionInner M) -> SessionInner M -> Prop}
variable (L : Lawful M) (A : Along J)
include L A

theorem pushed {kind : BlobKind} {a : Archive M} {shown : List (SessionInner M)}
    {s s' : SessionInner M} {pushed : List (Push M)} (hrecorded : Recorded s' pushed shown)
    (hJ : J shown s') (hrun : (encodeBlob kind).run s = (.ok a, s'))
    (hnewer : forall q, q ∈ pushed ->
      Supersedes q { seq := s'.stateSeq, kind := kind, archive := a }) :
    exists shown', Recorded s'
      (pushed ++ [{ seq := s'.stateSeq, kind := kind, archive := a }]) shown' ∧
        J shown' s' :=
  ⟨shown ++ [s'], hrecorded.push (encodeBlob_shows L hrun) hnewer, A.shows shown s' hJ⟩

theorem carries : Carries (AlongJournal J) (AlongRipe J) where
  unbumped := fun pushed => unbumped_ofUnstapled fun s s' hmoved hsame h hunexhausted => by
    rcases h hunexhausted with ⟨shown, hrecorded, hJ⟩
    exact ⟨shown, hrecorded.descend hmoved.descends,
      A.unbumped shown s s' hmoved hsame hJ⟩
  bodiesRipe := fun pushed => Bodies.ofMoved fun s s' hmoved h hunexhausted => by
    rcases h hunexhausted with ⟨shown, hrecorded, hJ, hbelow⟩
    refine ⟨shown, hrecorded.descend hmoved.descends, A.ripe shown s s' hmoved hbelow hJ,
      fun a ha => ?_⟩
    exact Nat.lt_of_lt_of_le (hbelow a ha) (hmoved.descends.counter L)
  counts := fun s pushed h _ hunexhausted => by
    rcases h hunexhausted with ⟨shown, hrecorded, hJ⟩
    refine ⟨shown, hrecorded.descend (descends_counted s), A.counted shown s hJ,
      fun a ha => ?_⟩
    exact Nat.lt_succ_of_le ((hrecorded.journal.now_after ha).counter L)
  exhausts := fun s pushed h hspent hunexhausted => by
    rcases h hunexhausted with ⟨shown, hrecorded, hJ⟩
    refine ⟨shown, hrecorded, hJ, fun a ha => ?_⟩
    rcases exists_entry hrecorded.journal.shows ha with ⟨p, hp, hshows⟩
    rw [hshows.seq]
    exact Nat.lt_of_lt_of_le (hunexhausted p hp) (Nat.le_of_not_lt hspent)
  unripe := fun _ _ h hunexhausted => by
    rcases h hunexhausted with ⟨shown, hrecorded, hJ, _⟩
    exact ⟨shown, hrecorded, hJ⟩
  pushes := fun kind s s' a pushed h hrun hunexhausted => by
    rcases h hunexhausted.before with ⟨shown, hrecorded, hJ, hbelow⟩
    have hmoved := encodeBlob_moved hrun
    refine A.pushed L (hrecorded.descend hmoved.descends)
      (A.ripe shown s s' hmoved hbelow hJ) hrun fun q hq => Or.inl ?_
    rcases exists_shown hrecorded.journal.shows hq with ⟨s₀, hs₀, hshows⟩
    rw [<- hshows.seq]
    exact Nat.lt_of_lt_of_le (hbelow s₀ hs₀) (hmoved.descends.counter L)
  checkpoints := fun s s' a pushed h hrun hunexhausted => by
    rcases h hunexhausted.before with ⟨shown, hrecorded, hJ⟩
    have hmoved := encodeBlob_moved hrun
    have hsame : s'.stapling () = s.stapling () := by
      have hquiet := unstapled_encodeBlob .checkpoint s () List.not_mem_nil
      rw [hrun] at hquiet
      exact hquiet
    have hrecorded' := hrecorded.descend hmoved.descends
    refine A.pushed L hrecorded' (A.unbumped shown s s' hmoved hsame hJ) hrun
      fun q hq => ?_
    rcases Nat.lt_or_eq_of_le (hrecorded'.seq_le L hq) with hlt | heq
    · exact Or.inl hlt
    · exact Or.inr ⟨heq, rfl⟩

theorem reopened {t : TwoMlsPqSession M} (h : Carried (AlongJournal J) t) :
    Carried (AlongJournal J) t.reopened := by
  have hencoded := ((A.carries L).unbumped t.pushed).encodes .checkpoint t.inner h
  unfold TwoMlsPqSession.reopened
  rcases hrun : (encodeBlob .checkpoint).run t.inner with ⟨r, s⟩
  rw [hrun] at hencoded
  cases r with
  | error e => exact hencoded
  | ok a =>
      dsimp only
      cases hopened : sessionFromWire a with
      | error e => exact hencoded
      | ok s' =>
          intro hunexhausted
          rcases hencoded hunexhausted with ⟨shown, hrecorded, hJ⟩
          have hreborn := opened_reborn L (encodeBlob_pictures hrun)
            (encodeBlob_archived L hrun) hopened
          exact ⟨shown, hrecorded.descend hreborn.descends, A.reborn shown s s' hJ hreborn⟩

omit A in
theorem restarted {t : TwoMlsPqSession M} (h : Carried (AlongJournal J) t)
    (hnewest : forall before s₀ r, Recorded t.inner t.pushed (before ++ [s₀]) ->
      J (before ++ [s₀]) t.inner -> Reborn s₀ r -> J (before ++ [s₀]) r) :
    Carried (AlongJournal J) t.restarted := by
  unfold TwoMlsPqSession.restarted
  cases hrestore : restore t.pushed with
  | error e => exact h
  | ok r =>
      intro hunexhausted
      rcases h hunexhausted with ⟨shown, hrecorded, hJ⟩
      rcases hrecorded.restored L hrestore with ⟨before, s₀, rfl, hreborn⟩
      exact ⟨before ++ [s₀], hrecorded.resumed L hrestore,
        hnewest before s₀ r hrecorded hJ hreborn⟩

end Along

/-!
## The staple and its stamp
-/

/-- The stamp is not ahead of the counter, and the send group is past every commit
that the staple carries. -/
structure Solid (b : Tab M) : Prop where
  stamp : b.stamp <= b.counter
  past : forall staple made, b.staple = some staple -> StaplesCommit made staple ->
    Later (some (made + 1)) b.epoch

theorem Solid.step {b b' : Tab M} (hstep : TabStep b b') (h : Solid b) : Solid b' := by
  cases hstep with
  | advance later =>
      exact
        { stamp := h.stamp
          past := fun staple made hstaple hmade =>
            (h.past staple made hstaple hmade).trans later }
  | commit now later carries =>
      refine { stamp := le_refl _, past := fun staple made hstaple hmade => ?_ }
      cases hstaple
      rw [carries.made_unique hmade] at later
      exact later
  | wrap bare =>
      refine { stamp := le_refl _, past := fun staple made hstaple hmade => ?_ }
      cases hstaple
      exact absurd hmade StaplesCommit.not_handoff
  | restamp => exact { stamp := le_refl _, past := h.past }

theorem Solid.count {b : Tab M} (h : Solid b) :
    Solid { b with counter := b.counter + 1 } where
  stamp := Nat.le_succ_of_le h.stamp
  past := h.past

/-- As long as the stamp of `b` is no newer than the counter of `a`, they have the
same staple. -/
def Gate (a b : Tab M) : Prop :=
  b.stamp <= a.counter -> b.staple = a.staple

theorem Gate.step {a b b' : Tab M} (hstep : TabStep b b') (hbelow : a.counter < b.counter)
    (h : Gate a b) : Gate a b' := by
  cases hstep with
  | advance later => exact h
  | commit now later carries => exact fun hle => absurd hle (Nat.not_le_of_lt hbelow)
  | wrap bare => exact fun hle => absurd hle (Nat.not_le_of_lt hbelow)
  | restamp => exact fun hle => absurd hle (Nat.not_le_of_lt hbelow)

theorem Gate.restamp {a b : Tab M} (hb : Solid b) (h : Gate a b) :
    Gate a { b with stamp := b.counter } :=
  fun hle => h (Nat.le_trans hb.stamp hle)

theorem Reborn.tab {s₀ r : SessionInner M} (h : Reborn s₀ r) :
    r.tab = { s₀.tab with stamp := s₀.tab.counter } := by
  unfold SessionInner.tab
  rw [h.msg, h.stateSeq, h.epoch]

/-- All sessions shown are solid, and the gate holds between each and those after
it. -/
structure Shielded (shown : List (SessionInner M)) (s : SessionInner M) : Prop where
  now : Solid s.tab
  solid : forall a, a ∈ shown -> Solid a.tab
  gates : (shown ++ [s]).Pairwise fun a b => Gate a.tab b.tab

namespace Shielded

variable {shown : List (SessionInner M)} {s s' : SessionInner M}

theorem replace (h : Shielded shown s) (hnow : Solid s'.tab)
    (hgate : forall a, a ∈ shown -> Gate a.tab s'.tab) : Shielded shown s' where
  now := hnow
  solid := h.solid
  gates := by
    refine List.pairwise_append.mpr
      ⟨(List.pairwise_append.mp h.gates).1, List.pairwise_singleton _ _, ?_⟩
    intro a ha b hb
    rw [List.mem_singleton.mp hb]
    exact hgate a ha

theorem gate (h : Shielded shown s) {a : SessionInner M} (ha : a ∈ shown) :
    Gate a.tab s.tab :=
  (List.pairwise_append.mp h.gates).2.2 a ha s (List.mem_singleton_self s)

theorem again (h : Shielded shown s) : Shielded (shown ++ [s]) s where
  now := h.now
  solid := by
    intro a ha
    rcases List.mem_append.mp ha with hold | hnew
    · exact h.solid a hold
    · rw [List.mem_singleton.mp hnew]
      exact h.now
  gates := by
    refine List.pairwise_append.mpr ⟨h.gates, List.pairwise_singleton _ _, ?_⟩
    intro a ha b hb
    rw [List.mem_singleton.mp hb]
    rcases List.mem_append.mp ha with hold | hnew
    · exact h.gate hold
    · rw [List.mem_singleton.mp hnew]
      exact fun _ => rfl

theorem reborn {r : SessionInner M} (h : Shielded shown s) (hreborn : Reborn s r) :
    Shielded shown r := by
  have htab := hreborn.tab
  refine h.replace ?_ fun a ha => ?_
  · rw [htab]
    exact h.now.step TabStep.restamp
  · rw [htab]
    exact (h.gate ha).restamp h.now

end Shielded

theorem along_shielded (L : Lawful M) : Along (Shielded (M := M)) where
  unbumped := fun shown s s' hmoved hsame h => by
    have htab := tab_same hsame
    refine h.replace ?_ fun a ha => ?_
    · exact (hmoved.tab L).invariant (fun _ _ => Solid.step) h.now
    · rw [htab]
      exact h.gate ha
  ripe := fun shown s s' hmoved hbelow h => by
    refine h.replace ?_ fun a ha => ?_
    · exact (hmoved.tab L).invariant (fun _ _ => Solid.step) h.now
    · have hkept := (hmoved.tab L).invariant
        (J := fun b => a.stateSeq < b.counter ∧ Gate a.tab b)
        (fun b b' hstep hb => ⟨hstep.counter ▸ hb.1, hb.2.step hstep hb.1⟩)
        ⟨hbelow a ha, h.gate ha⟩
      exact hkept.2
  counted := fun shown s h => h.replace h.now.count fun a ha => h.gate ha
  shows := fun shown s h => h.again
  reborn := fun shown s r h hreborn => h.reborn hreborn

/-!
## Birth
-/

theorem unstapled_recordBirth : Unstapled (recordBirth : SessionOp M Unit) :=
  Op.Writes.bind unstapled_rememberSendPsk fun _ =>
    Op.Writes.bind unstapled_recordListenRendezvous fun _ => unstapled_recordPqHeaderKey

theorem unstapled_initiateBirth (theirKp : CombinerKeyPackage M) (rnd : Nat -> M.Seed) :
    Unstapled (initiateBirth theirKp rnd) := by
  unfold initiateBirth preCommitBootstrapKp
  refine Op.Writes.bind (Op.Writes.update fun _ _ _ => rfl) fun _ => ?_
  refine Op.Writes.bind ?_ fun _ => ?_
  · refine Op.Writes.looking Op.Still.state fun s => ?_
    refine Op.Writes.looking (Op.Still.ofExcept _) fun minted => ?_
    refine Op.Writes.looking (Op.Still.ofExcept _) fun kp => ?_
    exact Unstapled.mapRound _
  refine Op.Writes.looking (still_composeInitialEnvelope _ _) fun envelope => ?_
  exact Op.Writes.bind (Unstapled.mapMsg (fun _ _ => rfl) fun _ _ => rfl)
    fun _ => unstapled_recordBirth

theorem unstapled_acceptBirth (invitationClient : Option (TwoMlsPqPrincipal M))
    (recvCrossEpoch : Nat) (commitment : Bytes) (spawnToken : Option Bytes) :
    Unstapled (acceptBirth invitationClient recvCrossEpoch commitment spawnToken :
      SessionOp M Unit) := by
  unfold acceptBirth
  refine Op.Writes.bind ?_ fun _ => ?_
  · cases invitationClient with
    | none => exact Op.Writes.update fun _ _ _ => rfl
    | some client => exact unstapled_trackPskStores fun _ => client
  refine Op.Writes.bind (Op.Writes.update fun _ _ _ => rfl) fun _ => ?_
  exact Op.Writes.bind unstapled_recordBirth fun _ => Op.Writes.update fun _ _ _ => rfl

theorem Born.welcome {s : SessionInner M} (h : Born s) :
    exists w, s.stapling () = (some (.welcome w), 0, 0) := by
  cases h with
  | @initiated client services theirKp appBinding rnd h =>
      rcases initiate_built h with ⟨theirId, created, services', hbirth⟩
      have hkept := unstapled_initiateBirth theirKp rnd (buildSession client services'
        created.1 none created.2 theirId true none (client.handle + 1)) ()
        List.not_mem_nil
      rw [hbirth] at hkept
      exact ⟨_, hkept⟩
  | @accepted client dedicated services welcome theirKp commitment spawnToken expected
      rnd h =>
      rcases acceptWith_built h with
        ⟨groupClient, w, theirId, r, services', nextHandle, _, hbirth⟩
      have hkept := unstapled_acceptBirth (dedicated.map fun _ => client) r.2.2.2
        commitment spawnToken (buildSession groupClient services' r.1 (some r.2.1)
          { classical := r.2.2.1, pq := Blob.empty } theirId false
          (some (M.sha256 welcome.bytes)) nextHandle) () List.not_mem_nil
      rw [hbirth] at hkept
      exact ⟨_, hkept⟩

theorem Born.solid {s : SessionInner M} (h : Born s) : Solid s.tab := by
  rcases h.welcome with ⟨w, hborn⟩
  unfold SessionInner.stapling at hborn
  injection hborn with hstaple hrest
  injection hrest with hstamp hcounter
  constructor
  · exact Nat.le_of_eq (hstamp.trans hcounter.symm)
  · intro staple made hstapled hmade
    have hsame : some staple = some (Staple.welcome w) := hstapled.symm.trans hstaple
    rw [Option.some.inj hsame] at hmade
    exact absurd hmade StaplesCommit.not_welcome

/-!
## A staple that has left
-/

/-- The staple `st` is current, or its welcome behind an envelope is, or a later
commit; and the send group is past every commit that `st` carries. -/
structure Survives (st : Staple M) (b : Tab M) : Prop where
  past : forall made, StaplesCommit made st -> Later (some (made + 1)) b.epoch
  carried : b.staple = some st ∨
    (exists envelope welcome, st = .welcome welcome ∧
      b.staple = some (.handoff envelope welcome)) ∨
    exists next made, b.staple = some next ∧ StaplesCommit made next ∧
      forall before, StaplesCommit before st -> before < made

theorem Solid.survives {st : Staple M} {b : Tab M} (h : Solid b)
    (hstaple : b.staple = some st) : Survives st b where
  past := fun made hmade => h.past st made hstaple hmade
  carried := Or.inl hstaple

theorem Survives.step {st : Staple M} {b b' : Tab M} (hstep : TabStep b b')
    (h : Survives st b) : Survives st b' := by
  cases hstep with
  | advance later =>
      exact
        { past := fun made hmade => (h.past made hmade).trans later
          carried := h.carried }
  | @commit staple made epoch now later carries =>
      have hnewer : forall before, StaplesCommit before st -> before < made := by
        intro before hbefore
        have hpast := h.past before hbefore
        rw [now] at hpast
        exact hpast
      refine { past := fun before hbefore => ?_, carried := ?_ }
      · have hpast : Later (some (before + 1)) (some (made + 1)) :=
          Nat.succ_le_succ (Nat.le_of_lt (hnewer before hbefore))
        exact hpast.trans later
      · exact Or.inr (Or.inr ⟨staple, made, rfl, carries, hnewer⟩)
  | @wrap envelope welcome bare =>
      refine { past := h.past, carried := ?_ }
      rcases h.carried with hsame | ⟨envelope', welcome', _, hwrapped⟩ |
        ⟨next, made, hnext, hmade, _⟩
      · rw [bare] at hsame
        exact Or.inr (Or.inl ⟨envelope, welcome, (Option.some.inj hsame).symm, rfl⟩)
      · rw [bare] at hwrapped
        cases hwrapped
      · rw [bare] at hnext
        rw [<- Option.some.inj hnext] at hmade
        exact absurd hmade StaplesCommit.not_welcome
  | restamp => exact { past := h.past, carried := h.carried }

/-- The staple survives now, and in every session shown since the counter was `d`. -/
structure Survived (d : Nat) (st : Staple M) (shown : List (SessionInner M))
    (s : SessionInner M) : Prop where
  now : Survives st s.tab
  since : forall a, a ∈ shown -> d <= a.stateSeq -> Survives st a.tab

theorem Survived.reborn {d : Nat} {st : Staple M} {shown : List (SessionInner M)}
    {s s₀ r : SessionInner M} (h : Survived d st shown s) (hs₀ : Survives st s₀.tab)
    (hreborn : Reborn s₀ r) : Survived d st shown r where
  now := by
    rw [hreborn.tab]
    exact hs₀.step TabStep.restamp
  since := h.since

theorem along_survived (L : Lawful M) (d : Nat) (st : Staple M) :
    Along (Survived (M := M) d st) := by
  have hmoves : forall shown (s s' : SessionInner M), Moved s s' ->
      Survived d st shown s -> Survived d st shown s' := fun shown s s' hmoved h =>
    { now := (hmoved.tab L).invariant (fun _ _ => Survives.step) h.now
      since := h.since }
  exact
    { unbumped := fun shown s s' hmoved _ h => hmoves shown s s' hmoved h
      ripe := fun shown s s' hmoved _ h => hmoves shown s s' hmoved h
      counted := fun shown s h =>
        { now := { past := h.now.past, carried := h.now.carried }
          since := h.since }
      shows := fun shown s h =>
        { now := h.now
          since := by
            intro a ha hd
            rcases List.mem_append.mp ha with hold | hnew
            · exact h.since a hold hd
            · rw [List.mem_singleton.mp hnew]
              exact h.now }
      reborn := fun shown s r h hreborn => h.reborn h.now hreborn }

/-!
## Encrypting
-/

def Outgoing.staple : Outgoing M -> Option (Staple M)
  | .frame (.message staple _ _) => some staple
  | .frame _ => none
  | .envelope e => e.welcome.map Staple.welcome

def Announces (staple : Option (Staple M)) (stamp : Nat) (r : EncryptResult M) : Prop :=
  r.dependsOnSeq = stamp ∧ forall st, r.cipherText.staple = some st -> staple = some st

def Tagged (staple : Option (Staple M)) (stamp : Nat) (s : SessionInner M) : Prop :=
  s.msg.currentStaple = staple ∧ s.msg.currentStapleSeq = stamp

theorem Tagged.ofUnstapled {staple : Option (Staple M)} {stamp : Nat}
    {x : SessionOp M α} (hx : Unstapled x) : Op.Keeps (Tagged staple stamp) x := by
  intro s hs
  have hkept := hx s () List.not_mem_nil
  unfold SessionInner.stapling at hkept
  injection hkept with hstaple hrest
  injection hrest with hstamp _
  exact ⟨hstaple.trans hs.1, hstamp.trans hs.2⟩

section

variable (staple : Option (Staple M)) (stamp : Nat)

theorem composeInitialEnvelope_welcome (stapled : Option (Blob M)) (seed : M.Seed) :
    Op.Triple (Tagged staple stamp) (composeInitialEnvelope stapled seed)
      (fun e s => Tagged staple stamp s ∧
        forall w, e.welcome = some w -> staple = some (.welcome w)) fun _ _ => True := by
  unfold composeInitialEnvelope
  refine Op.Triple.reading fun s hs => ?_
  refine Op.Triple.looking (Op.Still.ofOption _ _) (fun _ _ _ => True.intro)
    fun theirKp => ?_
  cases hwelcome : stapledWelcome s with
  | none => exact Op.Triple.failing fun _ _ => True.intro
  | some welcome =>
      have hcurrent := hs.1.symm.trans (stapledWelcome_staple hwelcome)
      refine Op.Triple.present ?_
      refine Op.Triple.looking (Op.Still.ofExcept _) (fun _ _ _ => True.intro)
        fun _ => ?_
      split
      · refine Op.Triple.value fun s' hs' => ⟨hs' ▸ hs, fun w hw => ?_⟩
        cases hw
      · refine Op.Triple.value fun s' hs' => ⟨hs' ▸ hs, fun w hw => ?_⟩
        rw [hcurrent, Option.some.inj hw]

theorem composeFrame_staple (staged : Option (Bytes × Blob M)) (app : Blob M)
    (seed : M.Seed) :
    Op.Triple (Tagged staple stamp) (composeFrame staged app seed)
      (fun out s => Tagged staple stamp s ∧
        forall st, out.staple = some st -> staple = some st) fun _ _ => True := by
  unfold composeFrame
  cases staged with
  | some pair =>
      refine Op.Triple.reading fun s hs => ?_
      cases hcurrent : s.msg.currentStaple with
      | none => exact Op.Triple.failing fun _ _ => True.intro
      | some current =>
          refine Op.Triple.present ?_
          refine Op.Triple.looking still_sealFrame (fun _ _ _ => True.intro) fun _ => ?_
          refine Op.Triple.value fun s' hs' => ⟨hs' ▸ hs, fun st hst => ?_⟩
          exact (hs.1.symm.trans hcurrent).trans hst
  | none =>
      refine Op.Triple.bind (composeInitialEnvelope_welcome staple stamp _ _)
        fun envelope => ?_
      refine Op.Triple.value fun s hs => ⟨hs.1, fun st hst => ?_⟩
      rcases Option.map_eq_some_iff.mp hst with ⟨w, hw, rfl⟩
      exact hs.2 w hw

theorem encryptInner_publishes (appMessage : Bytes) (rnd : Nat -> M.Seed) :
    Op.Triple (Tagged staple stamp) (encryptInner appMessage rnd)
      (fun r s => Tagged staple stamp s ∧ Announces staple stamp r)
      fun _ _ => True := by
  have hkept : forall {γ : Type} {x : SessionOp M γ}, Unstapled x ->
      Op.Triple (Tagged staple stamp) x (fun _ => Tagged staple stamp) fun _ _ => True :=
    fun hx => (Op.Triple.ofKeeps (Tagged.ofUnstapled hx)).weaken (fun _ _ h => h)
      fun _ _ _ => True.intro
  have hlook : forall {γ : Type} {x : SessionOp M γ}, Op.Still x ->
      Op.Triple (Tagged staple stamp) x (fun _ => Tagged staple stamp) fun _ _ => True :=
    fun hx => hkept (Unstapled.still hx)
  unfold encryptInner
  refine Op.Triple.bind (hlook still_ensureEstablishmentDelegated) fun _ => ?_
  refine Op.Triple.bind (hlook Op.Still.state) fun s => ?_
  refine Op.Triple.bind (hlook (Op.Still.ofOption _ _)) fun proposalHash => ?_
  dsimp only
  refine Op.Triple.bind (hkept (Unstapled.mapMsg (fun _ _ => rfl) fun _ _ => rfl))
    fun _ => ?_
  refine Op.Triple.bind (hlook (Op.Still.ensure _ _)) fun _ => ?_
  refine Op.Triple.bind (hkept (Unstapled.callHalf _ _ _ _)) fun message => ?_
  refine Op.Triple.bind (hlook (Op.Still.ofExcept _)) fun app => ?_
  refine Op.Triple.reading fun now hnow => ?_
  refine Op.Triple.pre (P := Tagged staple stamp) ?_ fun s' hs' => hs' ▸ hnow
  refine Op.Triple.bind (hlook (Op.Still.ofOption _ _)) fun send => ?_
  refine Op.Triple.bind (composeFrame_staple staple stamp _ _ _) fun cipherText => ?_
  refine Op.Triple.pre (P := fun s => (forall st, cipherText.staple = some st ->
    staple = some st) ∧ Tagged staple stamp s) ?_ fun s hs => ⟨hs.2, hs.1⟩
  refine Op.Triple.assume fun hpublished => ?_
  refine Op.Triple.bind (hkept (unstapled_rewrapSideBand _)) fun _ => ?_
  refine Op.Triple.bind (hkept (Unstapled.ofTouches (touches_maybeStageNextRound _)
    (by decide) (by decide))) fun stagedPqRound => ?_
  exact Op.Triple.value fun s hs => ⟨hs, hnow.2, hpublished⟩

end

theorem tagged_entered (t : TwoMlsPqSession M) :
    Tagged t.inner.msg.currentStaple t.inner.msg.currentStapleSeq (entered t) := by
  unfold entered
  split
  · exact ⟨rfl, rfl⟩
  · exact ⟨rfl, rfl⟩

theorem encrypt_announces {t t' : TwoMlsPqSession M} {appMessage : Bytes}
    {rnd : Nat -> M.Seed} {r : EncryptResult M}
    (h : (encrypt appMessage rnd).run t = (.ok r, t')) :
    Announces t'.inner.msg.currentStaple t'.inner.msg.currentStapleSeq r := by
  have hencodes : forall staple stamp (Q : Prop) (kind : BlobKind),
      Op.Keeps (fun s : SessionInner M => Tagged staple stamp s ∧ Q) (encodeBlob kind) :=
    fun staple stamp Q kind s hs =>
      ⟨Tagged.ofUnstapled (unstapled_encodeBlob kind) s hs.1, hs.2⟩
  have htriple : Op.Triple (fun u => u = t) (encrypt appMessage rnd)
      (fun r u => Tagged t.inner.msg.currentStaple t.inner.msg.currentStapleSeq u.inner ∧
        Announces t.inner.msg.currentStaple t.inner.msg.currentStapleSeq r)
      fun _ _ => True := by
    unfold encrypt
    refine Op.Triple.bind (triple_mutateAndPersist
      (E := fun _ _ => True)
      ((encryptInner_publishes t.inner.msg.currentStaple t.inner.msg.currentStapleSeq
        appMessage rnd).pre fun s hs => hs ▸ tagged_entered t)
      (fun _ _ _ => Or.inr fun _ => True.intro) (fun _ => hencodes _ _ _ _)
      fun _ _ _ => True.intro) fun result => ?_
    refine Op.Triple.bind (Q := fun _ u => Tagged t.inner.msg.currentStaple
      t.inner.msg.currentStapleSeq u.inner ∧ Announces t.inner.msg.currentStaple
        t.inner.msg.currentStapleSeq result) ?_ fun _ => Op.Triple.value fun _ hu => hu
    have hpersists := persistAfter_keeps (hencodes t.inner.msg.currentStaple
      t.inner.msg.currentStapleSeq (Announces t.inner.msg.currentStaple
        t.inner.msg.currentStapleSeq result) .checkpoint) fun _ _ hs => hs
    refine (Op.Triple.ofKeeps ?_).weaken (fun _ _ hu => hu) fun _ _ _ => True.intro
    exact Op.Keeps.ite hpersists (Op.Keeps.value ())
  have hrun := htriple.ok rfl (congrArg Prod.fst h)
  rw [h] at hrun
  rcases hrun with ⟨⟨hstaple, hstamp⟩, hpublishes⟩
  rw [hstaple, hstamp]
  exact hpublishes

/-!
## Released frames
-/

def Stored (d : Nat) (pushed : List (Push M)) : Prop :=
  exists p, p ∈ pushed ∧ d <= p.seq

/-- The host does not restart the session before it stored `d`. -/
def KeepsUntilStored (d : Nat) (t : TwoMlsPqSession M) (a : LifeAction M) : Prop :=
  a = .host .restart -> Stored d t.pushed

section

variable (L : Lawful M)
include L

theorem shielded_restarted {t : TwoMlsPqSession M}
    (h : Carried (AlongJournal Shielded) t) : Carried (AlongJournal Shielded) t.restarted := by
  refine Along.restarted L h fun before s₀ r _ hshielded hreborn => ?_
  have hcut : Shielded before s₀ :=
    { now := hshielded.solid s₀ (List.mem_append_right _ (List.mem_singleton_self _))
      solid := fun a ha => hshielded.solid a (List.mem_append_left _ ha)
      gates := (List.pairwise_append.mp hshielded.gates).1 }
  exact hcut.again.reborn hreborn

theorem shielded_life {s : SessionInner M} (born : Born s) {t : TwoMlsPqSession M}
    (life : Run TwoMlsPqSession.live (fun _ _ => True) (TwoMlsPqSession.fresh s) t) :
    Carried (AlongJournal Shielded) t := by
  refine life.invariant (fun u a h _ => ((along_shielded L).carries L).live
    (fun _ => shielded_restarted L) (fun _ => (along_shielded L).reopened L) a h)
    fun _ => ⟨[], ?_, ?_⟩
  · exact { journal := Journal.blank s, ordered := List.Pairwise.nil }
  · exact
      { now := born.solid
        solid := fun _ ha => absurd ha List.not_mem_nil
        gates := List.pairwise_singleton _ _ }

omit L in
theorem survived_start {t : TwoMlsPqSession M} {st : Staple M} {d : Nat}
    (h : Carried (AlongJournal Shielded) t) (hstaple : t.inner.msg.currentStaple = some st)
    (hstamp : t.inner.msg.currentStapleSeq = d) :
    Carried (AlongJournal (Survived d st)) t := by
  intro hunexhausted
  rcases h hunexhausted with ⟨shown, hrecorded, hshielded⟩
  refine ⟨shown, hrecorded, ?_⟩
  constructor
  · exact hshielded.now.survives hstaple
  · intro a ha hd
    have hsame : t.inner.tab.staple = a.tab.staple := hshielded.gate ha
      (Nat.le_trans (Nat.le_of_eq hstamp) hd)
    exact (hshielded.solid a ha).survives (hsame.symm.trans hstaple)

theorem survived_restarted {t : TwoMlsPqSession M} {st : Staple M} {d : Nat}
    (stored : Stored d t.pushed) (h : Carried (AlongJournal (Survived d st)) t) :
    Carried (AlongJournal (Survived d st)) t.restarted := by
  refine Along.restarted L h fun before s₀ r hrecorded hsurvived hreborn => ?_
  rcases stored with ⟨p, hp, hd⟩
  rcases exists_shown hrecorded.journal.shows hp with ⟨a, ha, hshows⟩
  have hnewest : a.stateSeq <= s₀.stateSeq := by
    rcases List.mem_append.mp ha with hold | hlast
    · have hdescends := (List.pairwise_append.mp hrecorded.journal.shown_line).2.2 a hold
        s₀ (List.mem_singleton_self _)
      exact hdescends.counter L
    · rw [List.mem_singleton.mp hlast]
  have hs₀ := hsurvived.since s₀ (List.mem_append_right _ (List.mem_singleton_self _))
    (Nat.le_trans hd (hshows.seq ▸ hnewest))
  exact hsurvived.reborn hs₀ hreborn

theorem survived_run {t v : TwoMlsPqSession M} {st : Staple M} {d : Nat}
    (h : Carried (AlongJournal (Survived d st)) t)
    (onward : Run TwoMlsPqSession.live (KeepsUntilStored d) t v) :
    Carried (AlongJournal (Survived d st)) v := by
  have A := along_survived L d st
  refine onward.invariant (fun u a hu hadmits => ?_) h
  cases a with
  | reopen => exact A.reopened L hu
  | host a =>
      cases a with
      | restart => exact survived_restarted L (hadmits rfl) hu
      | call call => exact (A.carries L).call call u hu

omit L in
theorem run_restarted_stored {t : TwoMlsPqSession M} {d : Nat}
    (h : exists p, p ∈ t.pushed ∧ decide (d <= p.seq) = true) :
    Run TwoMlsPqSession.live (KeepsUntilStored d) t t.restarted := by
  rcases h with ⟨p, hp, hd⟩
  exact Run.step (a := LifeAction.host (HostAction.restart (M := M))) Run.refl
    fun _ => ⟨p, hp, of_decide_eq_true hd⟩

omit L in
theorem restarted_pushed (t : TwoMlsPqSession M) : t.restarted.pushed = t.pushed := by
  unfold TwoMlsPqSession.restarted
  split
  · rfl
  · rfl

/-- Once the sink has a blob that an encrypted frame depends on, the staple of the frame
survives: at every later moment of the session, and in every session restored from the
blobs up to any one that the frame may wait for. -/
theorem released_staple_survives {s : SessionInner M} (born : Born s)
    {t t' v : TwoMlsPqSession M} {appMessage : Bytes} {rnd : Nat -> M.Seed}
    {r : EncryptResult M} {st : Staple M}
    (life : Run TwoMlsPqSession.live (fun _ _ => True) (TwoMlsPqSession.fresh s) t)
    (sent : (encrypt appMessage rnd).run t = (.ok r, t'))
    (published : r.cipherText.staple = some st)
    (onward : Run TwoMlsPqSession.live (KeepsUntilStored r.dependsOnSeq) t' v)
    (unexhausted : Unexhausted v.pushed) :
    Survives st v.inner.tab ∧
      forall older p newer z, v.pushed = older ++ p :: newer ->
        r.dependsOnSeq <= p.seq -> restore (older ++ [p]) = .ok z ->
          Survives st z.tab := by
  have hpublishes := encrypt_announces sent
  have hshielded : Carried (AlongJournal Shielded) t' := by
    have hkept := ((along_shielded L).carries L).encrypt appMessage rnd t (shielded_life L born life)
    rw [sent] at hkept
    exact hkept
  have hstart := survived_start hshielded (hpublishes.2 st published) hpublishes.1.symm
  rcases survived_run L hstart onward unexhausted with ⟨shown, hrecorded, hsurvived⟩
  refine ⟨hsurvived.now, fun older p newer z hcut hstored hrestore => ?_⟩
  have hshows := hrecorded.journal.shows
  have hordered := hrecorded.ordered
  rw [hcut] at hshows hordered
  rcases split_shown hshows with ⟨before, s₀, after, rfl, holder, hshown⟩
  have hnewer : forall q, q ∈ older -> Supersedes q p := fun q hq =>
    (List.pairwise_append.mp hordered).2.2 q hq p List.mem_cons_self
  have hreborn := restore_newest L holder hshown hnewer hrestore
  have hs₀ := hsurvived.since s₀ (List.mem_append_right _ List.mem_cons_self)
    (hshown.seq ▸ hstored)
  rw [hreborn.tab]
  exact hs₀.step TabStep.restamp

end

end

theorem answer_eq {ε σ α : Type} {p : Except ε α × σ} {a : α} (h : p.1 = .ok a) :
    p = (.ok a, p.2) := by
  rw [<- h]

namespace ReferencePair

def bindingSession : TwoMlsPqSession Reference.mls :=
  (world.play (bootstrapBind ++
    [.call .left (.prepareToEncrypt none (rnd 4200))])).session .left

set_option maxRecDepth 4000 in
theorem binding_run :
    Run TwoMlsPqSession.live (fun _ _ => True) (TwoMlsPqSession.fresh initiator)
      bindingSession :=
  World.run_live .left (World.run_played world _)

def bindFrame : Result (EncryptResult Reference.mls) × TwoMlsPqSession Reference.mls :=
  (encrypt (M := Reference.mls) [1] (rnd 4250)).run bindingSession

theorem bindFrame_states :
    (bindFrame.1.toOption.bind fun r => r.cipherText.staple).any Staple.isBind = true ∧
      (bindFrame.1.toOption.any fun r =>
        bindFrame.2.pushed.any fun p => decide (r.dependsOnSeq <= p.seq)) = true ∧
      bindFrame.2.pushed.all (fun p => decide (p.seq < maxSeq)) = true ∧
        (restore bindFrame.2.pushed).toOption.isSome = true := by
  decide +kernel

end ReferencePair

theorem announces_bind {M : MlsRs} {res : Result (EncryptResult M)}
    {t : TwoMlsPqSession M}
    (hbind : (res.toOption.bind fun r => r.cipherText.staple).any Staple.isBind = true)
    (hstored : (res.toOption.any fun r =>
      t.pushed.any fun p => decide (r.dependsOnSeq <= p.seq)) = true) :
    exists r st, res = .ok r ∧ r.cipherText.staple = some st ∧ st.isBind = true ∧
      Run TwoMlsPqSession.live (KeepsUntilStored r.dependsOnSeq) t t.restarted := by
  cases res with
  | error e => cases hbind
  | ok r =>
      change (r.cipherText.staple).any _ = true at hbind
      cases hstaple : r.cipherText.staple with
      | none =>
          rw [hstaple] at hbind
          cases hbind
      | some st =>
          rw [hstaple] at hbind
          exact ⟨r, st, rfl, hstaple, hbind,
            run_restarted_stored (List.any_eq_true.mp hstored)⟩

set_option maxRecDepth 4000 in
/-- The bind that the initiator sent survives a restart. -/
theorem sent_bind_survives :
    exists r st, ReferencePair.bindFrame.1 = .ok r ∧ r.cipherText.staple = some st ∧
      st.isBind = true ∧
        Survives st ReferencePair.bindFrame.2.restarted.inner.tab := by
  rcases ReferencePair.bindFrame_states with ⟨hbind, hstored, hunexhausted, _⟩
  rcases announces_bind hbind hstored with ⟨r, st, hresult, hstaple, hcarries, honward⟩
  refine ⟨r, st, hresult, hstaple, hcarries, ?_⟩
  have hsent : (encrypt (M := Reference.mls) [1] (ReferencePair.rnd 4250)).run
      ReferencePair.bindingSession = (.ok r, ReferencePair.bindFrame.2) :=
    answer_eq hresult
  refine (released_staple_survives Reference.lawful ReferencePair.initiator_born
    ReferencePair.binding_run hsent hstaple honward fun p hp => ?_).1
  rw [restarted_pushed] at hp
  exact of_decide_eq_true (List.all_eq_true.mp hunexhausted p hp)

end Session
end TwoMlsPq
