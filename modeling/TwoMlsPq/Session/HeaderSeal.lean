import TwoMlsPq.Session.Wire
import TwoMlsPq.Session.World

/-!
# The header seal

Every frame leaves under one more seal: a random nonce, and the frame behind its length
and before its padding, encrypted under a header key of the group it is sent to.  The
receiver tries its windows of header keys, the classical one first and the newest epoch
first in each, and hands on what no key opens as it came.
-/

namespace TwoMlsPq
namespace Session

open Foundation Apq

section

variable {M : MlsRs}

/-!
## Sealing
-/

/-- The length a side-band frame is padded to: the last message frame's, capped at the
target, and never less than its own. -/
def sideBandPadTo (padTarget : Option Nat) (lastMessageFrameLen frameLen : Nat) : Nat :=
  match padTarget with
  | some n => max frameLen (min n lastMessageFrameLen)
  | none => frameLen

def sealWith (key frame : Bytes) (padTo : Nat) (seed : M.Seed) : Result Bytes := do
  let padLen := padTo - frame.length
  let plaintext := leBytes frame.length ++ frame ++ List.replicate padLen 0
  let out <- orError .mls (M.randomBytes M.aeadNonceSize seed)
  let ct <- orError .mls (M.aeadSeal key plaintext out)
  .ok (out ++ ct)

def SideBand.bytes (frame : SideBand M) : Bytes :=
  pqFrameTag frame.kind :: frame.body.bytes

/-- The key `seal` and `seal_side_band` choose, the latter by the group the frame's
contents live in. -/
def frameKey (s : SessionInner M) : Result Bytes :=
  match s.half .recvClassical with
  | some g => headerKey g
  | none => .error .sessionNotEstablished

def sideBandKey (s : SessionInner M) (frame : SideBand M) : Result Bytes :=
  match s.half .recvClassical with
  | none => .error .sessionNotEstablished
  | some g =>
      if frame.isRatchetLeg && a4LegIsClassical s frame then headerKey g
      else
        match s.half .recvPq with
        | some pq => headerKeyPq pq
        | none => frameKey s

def sealBlob (s : SessionInner M) (frame : Bytes) (seed : M.Seed) : Result Bytes := do
  let key <- frameKey s
  sealWith key frame frame.length seed

def sealSideBandBlob (s : SessionInner M) (padTarget : Option Nat)
    (lastMessageFrameLen : Nat) (frame : SideBand M) (seed : M.Seed) : Result Bytes :=
  match s.half .recvClassical with
  | none => .error .sessionNotEstablished
  | some g =>
      let padTo := sideBandPadTo padTarget lastMessageFrameLen frame.bytes.length
      if frame.isRatchetLeg && a4LegIsClassical s frame then do
        let key <- headerKey g
        sealWith key frame.bytes padTo seed
      else
        match s.half .recvPq with
        | some pq => do
            let key <- headerKeyPq pq
            sealWith key frame.bytes padTo seed
        | none => sealBlob s frame.bytes seed

/-!
## Opening
-/

def windowKeys (s : SessionInner M) : List Bytes :=
  (s.ledger.recvHeaderKeys.reverse ++ s.ledger.recvHeaderKeysPq.reverse).map Prod.snd

def firstOpening (keys : List Bytes) (nonce ct : Bytes) : Option Bytes :=
  keys.findSome? fun key => (M.aeadOpen key ct nonce).toOption

def stripPadding (pt : Bytes) : Result Bytes :=
  match pt with
  | b0 :: b1 :: b2 :: b3 :: body =>
      let len := u32Le b0 b1 b2 b3
      if 4 + len <= pt.length then .ok (body.take len) else .error .mls
  | _ => .error .mls

def tryOpen (s : SessionInner M) (blob : Bytes) : Result (Option Bytes) :=
  if blob.length < M.aeadNonceSize then .ok none
  else
    let nonce := blob.take M.aeadNonceSize
    let ct := blob.drop M.aeadNonceSize
    match firstOpening (M := M) (windowKeys s) nonce ct with
    | none => .ok none
    | some pt => do
        let frame <- stripPadding pt
        .ok (some frame)

def openOrRaw (s : SessionInner M) (blob : Bytes) : Bytes :=
  match tryOpen s blob with
  | .ok (some pt) => pt
  | _ => blob

/-!
## The receive doors on bytes
-/

variable (fromBytes : Bytes -> Option M.Message)

def opening {α : Type} (door : Frame M -> ApiOp M α) (blob : Bytes) : ApiOp M α := do
  let t <- Op.state
  door (readFrame fromBytes (openOrRaw t.inner blob))

inductive ReceiveDoor (M : MlsRs) where
  | processIncoming
  | processIncomingApproved (approval : EstablishmentApproval)
  | pqRatchetRespond (rnd : Nat -> M.Seed)
  | pqRatchetBind (seed : M.Seed)
  | pqRekeyRespond (seed : M.Seed)
  | pqRekeyApply (seed : M.Seed)
  | pqBootstrapRespond (rnd : Nat -> M.Seed)
  | pqBootstrapBind (seed : M.Seed)

inductive Received (M : MlsRs) where
  | incoming (result : Option (DecryptResult M))
  | announced (clientId : Option Bytes)
  | done

def ReceiveDoor.receive (door : ReceiveDoor M) (blob : Bytes) : ApiOp M (Received M) :=
  match door with
  | .processIncoming => do
      let result <- opening fromBytes Session.processIncoming blob
      pure (.incoming result)
  | .processIncomingApproved approval => do
      let result <- opening fromBytes
        (fun frame => Session.processIncomingApproved frame approval) blob
      pure (.incoming result)
  | .pqRatchetRespond rnd => do
      opening fromBytes (fun frame => Session.pqRatchetRespond frame rnd) blob
      pure .done
  | .pqRatchetBind seed => do
      opening fromBytes (fun frame => Session.pqRatchetBind frame seed) blob
      pure .done
  | .pqRekeyRespond seed => do
      let clientId <- opening fromBytes
        (fun frame => Session.pqRekeyRespond frame seed) blob
      pure (.announced clientId)
  | .pqRekeyApply seed => do
      opening fromBytes (fun frame => Session.pqRekeyApply frame seed) blob
      pure .done
  | .pqBootstrapRespond rnd => do
      opening fromBytes (fun frame => Session.pqBootstrapRespond frame rnd) blob
      pure .done
  | .pqBootstrapBind seed => do
      opening fromBytes (fun frame => Session.pqBootstrapBind frame seed) blob
      pure .done

/-!
## The assumed AEAD
-/

/-- What is sealed under one of the keys opens under it and under no other of them; a
drawn nonce fills the nonce. -/
structure HeaderAead (M : MlsRs) (keys : List Bytes) : Prop where
  opens : forall {key plaintext nonce ct}, key ∈ keys ->
    M.aeadSeal key plaintext nonce = .ok ct ->
      M.aeadOpen key ct nonce = .ok plaintext
  binds : forall {key other plaintext plaintext' nonce ct}, key ∈ keys -> other ∈ keys ->
    M.aeadSeal key plaintext nonce = .ok ct ->
      M.aeadOpen other ct nonce = .ok plaintext' -> other = key
  drawn : forall {seed nonce}, M.randomBytes M.aeadNonceSize seed = .ok nonce ->
    nonce.length = M.aeadNonceSize

def OpensUnder (key blob : Bytes) : Prop :=
  M.aeadNonceSize <= blob.length ∧
    exists pt, M.aeadOpen key (blob.drop M.aeadNonceSize) (blob.take M.aeadNonceSize) =
      .ok pt

def Foreign (s : SessionInner M) (blob : Bytes) : Prop :=
  forall key, key ∈ windowKeys s -> ¬ OpensUnder (M := M) key blob

/-!
## Opening what was sealed
-/

theorem le_sideBandPadTo (padTarget : Option Nat) (lastMessageFrameLen frameLen : Nat) :
    frameLen <= sideBandPadTo padTarget lastMessageFrameLen frameLen := by
  unfold sideBandPadTo
  cases padTarget with
  | none => exact Nat.le_refl _
  | some n => exact Nat.le_max_left _ _

theorem stripPadding_padded {frame : Bytes} (hframe : Short frame) (padding : Bytes) :
    stripPadding (leBytes frame.length ++ frame ++ padding) = .ok frame := by
  have hlayout : leBytes frame.length ++ frame ++ padding =
      lengthPrefixed frame ++ padding := rfl
  rw [hlayout, lengthPrefixed_append]
  unfold stripPadding
  dsimp only
  have hfits : 4 + frame.length <= (UInt8.ofNat frame.length ::
      UInt8.ofNat (frame.length / 2 ^ 8) :: UInt8.ofNat (frame.length / 2 ^ 16) ::
        UInt8.ofNat (frame.length / 2 ^ 24) :: (frame ++ padding)).length := by
    simp only [List.length_cons, List.length_append]
    omega
  rw [u32Le_leBytes hframe, if_pos hfits, List.take_left]

theorem firstOpening_of_mem {keys : List Bytes} {key nonce ct pt : Bytes}
    (hkey : key ∈ keys) (hopens : M.aeadOpen key ct nonce = .ok pt)
    (honly : forall other, other ∈ keys -> forall pt',
      M.aeadOpen other ct nonce = .ok pt' -> other = key) :
    firstOpening (M := M) keys nonce ct = some pt := by
  unfold firstOpening
  induction keys with
  | nil => cases hkey
  | cons first rest ih =>
      rw [List.findSome?_cons]
      cases hfirst : M.aeadOpen first ct nonce with
      | ok pt' =>
          have hsame := honly first List.mem_cons_self pt' hfirst
          rw [hsame, hopens] at hfirst
          cases hfirst
          rfl
      | error e =>
          have hrest : key ∈ rest := by
            rcases List.mem_cons.mp hkey with rfl | hrest
            · rw [hopens] at hfirst
              cases hfirst
            · exact hrest
          exact ih hrest fun other hmem => honly other (List.mem_cons_of_mem _ hmem)

theorem tryOpen_sealWith {s : SessionInner M} {key frame blob : Bytes} {padTo : Nat}
    {seed : M.Seed} (haead : HeaderAead M (windowKeys s)) (hkey : key ∈ windowKeys s)
    (hframe : Short frame) (h : sealWith key frame padTo seed = .ok blob) :
    tryOpen s blob = .ok (some frame) := by
  unfold sealWith at h
  cases hnonce : M.randomBytes M.aeadNonceSize seed with
  | error e =>
      rw [hnonce] at h
      cases h
  | ok nonce =>
      rw [hnonce] at h
      cases hct : M.aeadSeal key
          (leBytes frame.length ++ frame ++ List.replicate (padTo - frame.length) 0)
          nonce with
      | error e =>
          simp only [bind, Except.bind, orError, hct] at h
          cases h
      | ok ct =>
          simp only [bind, Except.bind, orError, hct] at h
          have hblob : nonce ++ ct = blob := Except.ok.inj h
          subst hblob
          have hsize := haead.drawn hnonce
          have hopening := firstOpening_of_mem hkey (haead.opens hkey hct)
            fun other hmem pt hother => haead.binds hkey hmem hct hother
          unfold tryOpen
          rw [if_neg (by simp [hsize]), ← hsize, List.take_left, List.drop_left]
          dsimp only
          rw [hopening]
          dsimp only
          rw [stripPadding_padded hframe]
          rfl

theorem tryOpen_foreign {s : SessionInner M} {blob : Bytes} (h : Foreign s blob) :
    tryOpen s blob = .ok none := by
  unfold tryOpen
  by_cases hshort : blob.length < M.aeadNonceSize
  · rw [if_pos hshort]
  · rw [if_neg hshort]
    have hnone : firstOpening (M := M) (windowKeys s) (blob.take M.aeadNonceSize)
        (blob.drop M.aeadNonceSize) = none := by
      unfold firstOpening
      apply List.findSome?_eq_none_iff.mpr
      intro key hkey
      cases hopen : M.aeadOpen key (blob.drop M.aeadNonceSize)
          (blob.take M.aeadNonceSize) with
      | ok pt => exact absurd ⟨Nat.le_of_not_lt hshort, pt, hopen⟩ (h key hkey)
      | error e => rfl
    dsimp only
    rw [hnone]

theorem openOrRaw_sealed {s : SessionInner M} {blob frame : Bytes}
    (h : tryOpen s blob = .ok (some frame)) : openOrRaw s blob = frame := by
  unfold openOrRaw
  rw [h]

theorem openOrRaw_foreign {s : SessionInner M} {blob : Bytes} (h : Foreign s blob) :
    openOrRaw s blob = blob := by
  unfold openOrRaw
  rw [tryOpen_foreign h]

/-!
## Both ways through a door
-/

theorem run_opened {α : Type} (door : Frame M -> ApiOp M α) (blob : Bytes)
    (t : TwoMlsPqSession M) :
    (opening fromBytes door blob).run t =
      (door (readFrame fromBytes (openOrRaw t.inner blob))).run t :=
  rfl

theorem receive_congr {t : TwoMlsPqSession M} {blob frame : Bytes}
    (h : openOrRaw t.inner blob = openOrRaw t.inner frame) (door : ReceiveDoor M) :
    (door.receive fromBytes blob).run t = (door.receive fromBytes frame).run t := by
  unfold ReceiveDoor.receive
  cases door <;> simp only [Op.run_bind, run_opened, h]

/-!
## The two sealing paths
-/

theorem sealBlob_key {s : SessionInner M} {frame blob : Bytes} {seed : M.Seed}
    (h : sealBlob s frame seed = .ok blob) :
    exists key, frameKey s = .ok key ∧
      sealWith key frame frame.length seed = .ok blob := by
  unfold sealBlob at h
  cases hkey : frameKey s with
  | error e =>
      rw [hkey] at h
      cases h
  | ok key =>
      rw [hkey] at h
      exact ⟨key, rfl, h⟩

/-- A side-band blob is the frame under its own key, padded or not. -/
theorem sealSideBandBlob_key {s : SessionInner M} {padTarget : Option Nat}
    {lastMessageFrameLen : Nat} {frame : SideBand M} {blob : Bytes} {seed : M.Seed}
    (h : sealSideBandBlob s padTarget lastMessageFrameLen frame seed = .ok blob) :
    exists key padTo, sideBandKey s frame = .ok key ∧ frame.bytes.length <= padTo ∧
      sealWith key frame.bytes padTo seed = .ok blob := by
  unfold sealSideBandBlob at h
  unfold sideBandKey
  cases hclassical : s.half .recvClassical with
  | none =>
      rw [hclassical] at h
      cases h
  | some g =>
      rw [hclassical] at h
      dsimp only at h ⊢
      by_cases hleg : (frame.isRatchetLeg && a4LegIsClassical s frame) = true
      · rw [if_pos hleg] at h ⊢
        cases hkey : headerKey g with
        | error e =>
            rw [hkey] at h
            cases h
        | ok key =>
            rw [hkey] at h
            exact ⟨key, _, rfl, le_sideBandPadTo _ _ _, h⟩
      · rw [if_neg hleg] at h ⊢
        cases hpq : s.half .recvPq with
        | none =>
            rw [hpq] at h
            rcases sealBlob_key h with ⟨key, hkey, hseal⟩
            exact ⟨key, _, hkey, Nat.le_refl _, hseal⟩
        | some pq =>
            rw [hpq] at h
            dsimp only at h ⊢
            cases hkey : headerKeyPq pq with
            | error e =>
                rw [hkey] at h
                cases h
            | ok key =>
                rw [hkey] at h
                exact ⟨key, _, rfl, le_sideBandPadTo _ _ _, h⟩

/-- A receiver whose windows hold the key gets back exactly the frame, so a door does the
same with the blob as with a frame that no key opens; what no key opens passes through. -/
theorem header_seal_is_transparent (fromBytes : Bytes -> Option M.Message) :
    (forall (padTarget : Option Nat) (lastMessageFrameLen frameLen : Nat),
      frameLen <= sideBandPadTo padTarget lastMessageFrameLen frameLen) ∧
    (forall (s : SessionInner M) (key frame blob : Bytes) (padTo : Nat) (seed : M.Seed),
      HeaderAead M (windowKeys s) -> key ∈ windowKeys s -> Short frame ->
        sealWith key frame padTo seed = .ok blob -> tryOpen s blob = .ok (some frame)) ∧
    (forall (sender s : SessionInner M) (key frame blob : Bytes) (seed : M.Seed),
      HeaderAead M (windowKeys s) -> frameKey sender = .ok key -> key ∈ windowKeys s ->
        Short frame -> sealBlob sender frame seed = .ok blob ->
          tryOpen s blob = .ok (some frame)) ∧
    (forall (sender s : SessionInner M) (key blob : Bytes) (padTarget : Option Nat)
        (lastMessageFrameLen : Nat) (frame : SideBand M) (seed : M.Seed),
      HeaderAead M (windowKeys s) -> sideBandKey sender frame = .ok key ->
        key ∈ windowKeys s -> Short frame.bytes ->
          sealSideBandBlob sender padTarget lastMessageFrameLen frame seed = .ok blob ->
            tryOpen s blob = .ok (some frame.bytes)) ∧
    (forall (t : TwoMlsPqSession M) (door : ReceiveDoor M) (key frame blob : Bytes)
        (padTo : Nat) (seed : M.Seed),
      HeaderAead M (windowKeys t.inner) -> key ∈ windowKeys t.inner -> Short frame ->
        Foreign t.inner frame -> sealWith key frame padTo seed = .ok blob ->
          (door.receive fromBytes blob).run t = (door.receive fromBytes frame).run t) ∧
    (forall (s : SessionInner M) (blob : Bytes), Foreign s blob ->
      tryOpen s blob = .ok none ∧ openOrRaw s blob = blob) := by
  constructor
  · exact le_sideBandPadTo
  constructor
  · intro s key frame blob padTo seed haead hkey hframe hseal
    exact tryOpen_sealWith haead hkey hframe hseal
  constructor
  · intro sender s key frame blob seed haead hkey hmem hframe hseal
    rcases sealBlob_key hseal with ⟨chosen, hchosen, hsealed⟩
    rw [hkey] at hchosen
    cases hchosen
    exact tryOpen_sealWith haead hmem hframe hsealed
  constructor
  · intro sender s key blob padTarget last frame seed haead hkey hmem hframe hseal
    rcases sealSideBandBlob_key hseal with ⟨chosen, padTo, hchosen, _, hsealed⟩
    rw [hkey] at hchosen
    cases hchosen
    exact tryOpen_sealWith haead hmem hframe hsealed
  constructor
  · intro t door key frame blob padTo seed haead hkey hframe hforeign hseal
    apply receive_congr
    rw [openOrRaw_sealed (tryOpen_sealWith haead hkey hframe hseal),
      openOrRaw_foreign hforeign]
  · intro s blob hforeign
    exact ⟨tryOpen_foreign hforeign, openOrRaw_foreign hforeign⟩

end

/-!
## One seal and two
-/

namespace ReferenceSeal

theorem aead_of_length {keys : List Bytes}
    (h : forall key, key ∈ keys -> key.length = 32) :
    HeaderAead Reference.mls keys where
  opens := by
    intro key plaintext nonce ct _ hseal
    cases hseal
    change Reference.aeadOpen key (key ++ plaintext) = _
    unfold Reference.aeadOpen
    rw [List.take_left, if_pos rfl, List.drop_left]
  binds := by
    intro key other plaintext plaintext' nonce ct hkey hother hseal hopen
    cases hseal
    change Reference.aeadOpen other (key ++ plaintext) = _ at hopen
    unfold Reference.aeadOpen at hopen
    by_cases hsame : (key ++ plaintext).take other.length = other
    · rw [h other hother, ← h key hkey, List.take_left] at hsame
      exact hsame.symm
    · rw [if_neg hsame] at hopen
      cases hopen
  drawn := by
    intro seed nonce hdrawn
    cases hdrawn
    exact Reference.length_squeeze _ _

def session : TwoMlsPqSession Reference.mls :=
  TwoMlsPqSession.fresh ReferencePair.acceptor

def key : Bytes :=
  (windowKeys session.inner).headD []

def sealed (frame : Bytes) (padTo nonce : Nat) : Bytes :=
  (sealWith (M := Reference.mls) key frame padTo nonce).toOption.getD []

def frame : Bytes :=
  pqFrameTag .bootstrapKeyPackage :: List.replicate 20 7

def parse : Bytes -> Option Reference.mls.Message :=
  fun _ => none

def refusal (blob : Bytes) : Option TwoMlsPqError :=
  match ((ReceiveDoor.processIncoming.receive parse blob).run session).1 with
  | .ok _ => none
  | .error e => some e

theorem seals :
    (windowKeys session.inner = [key] ∧ key.length = 32) ∧
      (sealWith (M := Reference.mls) key frame 40 (3 : Nat) = .ok (sealed frame 40 3) ∧
        Reference.mls.aeadOpen key (frame.drop Reference.mls.aeadNonceSize)
          (frame.take Reference.mls.aeadNonceSize) = .error .other) ∧
      sealWith (M := Reference.mls) key (sealed frame 40 3) 0 (4 : Nat) =
        .ok (sealed (sealed frame 40 3) 0 4) ∧
      (sealed frame 40 3).length < 2 ^ 32 ∧
      refusal (sealed (sealed frame 40 3) 0 4) ≠ refusal (sealed frame 40 3) := by
  decide +kernel

theorem session_aead : HeaderAead Reference.mls (windowKeys session.inner) := by
  apply aead_of_length
  intro other hmem
  rw [seals.1.1] at hmem
  rw [List.mem_singleton.mp hmem]
  exact seals.1.2

theorem key_mem : key ∈ windowKeys session.inner := by
  rw [seals.1.1]
  exact List.mem_cons_self

theorem frame_foreign : Foreign session.inner frame := by
  intro other hmem hopens
  rw [seals.1.1] at hmem
  rw [List.mem_singleton.mp hmem] at hopens
  rcases hopens with ⟨_, pt, hopen⟩
  rw [seals.2.1.2] at hopen
  cases hopen

end ReferenceSeal

theorem padded_frame_is_transparent :
    tryOpen ReferenceSeal.session.inner (ReferenceSeal.sealed ReferenceSeal.frame 40 3) =
        .ok (some ReferenceSeal.frame) ∧
      (ReceiveDoor.processIncoming.receive ReferenceSeal.parse
          (ReferenceSeal.sealed ReferenceSeal.frame 40 3)).run ReferenceSeal.session =
        (ReceiveDoor.processIncoming.receive ReferenceSeal.parse
          ReferenceSeal.frame).run ReferenceSeal.session := by
  have hshort : Short ReferenceSeal.frame := by
    unfold Short
    decide
  rcases header_seal_is_transparent ReferenceSeal.parse with ⟨_, hopen, _, _, hdoor, _⟩
  constructor
  · exact hopen _ _ _ _ 40 _ ReferenceSeal.session_aead ReferenceSeal.key_mem hshort
      ReferenceSeal.seals.2.1.1
  · exact hdoor _ _ _ _ _ 40 _ ReferenceSeal.session_aead ReferenceSeal.key_mem hshort
      ReferenceSeal.frame_foreign ReferenceSeal.seals.2.1.1

/-- A frame that is itself a sealed blob loses its second seal at the door. -/
theorem sealed_twice_differs :
    ¬ forall (fromBytes : Bytes -> Option Reference.mls.Message)
        (t : TwoMlsPqSession Reference.mls) (door : ReceiveDoor Reference.mls)
        (key frame blob : Bytes) (padTo : Nat) (seed : Reference.mls.Seed),
      HeaderAead Reference.mls (windowKeys t.inner) -> key ∈ windowKeys t.inner ->
        Short frame -> sealWith key frame padTo seed = .ok blob ->
          (door.receive fromBytes blob).run t = (door.receive fromBytes frame).run t := by
  intro hall
  have hshort : Short (ReferenceSeal.sealed ReferenceSeal.frame 40 3) :=
    ReferenceSeal.seals.2.2.2.1
  have hsame := hall ReferenceSeal.parse ReferenceSeal.session .processIncoming _ _ _ 0 _
    ReferenceSeal.session_aead ReferenceSeal.key_mem hshort ReferenceSeal.seals.2.2.1
  apply ReferenceSeal.seals.2.2.2.2
  unfold ReferenceSeal.refusal
  rw [hsame]

end Session
end TwoMlsPq
