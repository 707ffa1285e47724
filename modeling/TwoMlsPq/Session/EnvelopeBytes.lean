import TwoMlsPq.Session.Wire
import TwoMlsPq.Session.Invitation
import TwoMlsPq.Session.InvitationBytes

/-!
# The establishment envelope

What an initiator sends before the session stands is one sealed blob.  Its plaintext is
either a vector of four optional sections or the bootstrap key package frame, told apart
by the leading byte.  An absent section is an empty one.  The blob itself is the output
of the key encapsulation behind its length, and then the ciphertext.
-/

namespace TwoMlsPq
namespace Session

open Foundation Apq

/-!
## Length-prefixed reads
-/

def takeBytes (missing : TwoMlsPqError) (rest : Bytes) : Decoder (Bytes × Bytes) := do
  let head <- Guarded.prefixOf missing rest 4
  let len <- lengthAt head
  let rest <- Guarded.sliceFrom rest 4
  let v <- Guarded.prefixOf missing rest len
  let rest <- Guarded.sliceFrom rest len
  pure (v, rest)

theorem takeBytes_lengthPrefixed (missing : TwoMlsPqError) {part : Bytes}
    (hpart : Short part) (rest : Bytes) :
    takeBytes missing (lengthPrefixed part ++ rest) = pure (part, rest) := by
  rw [lengthPrefixed_append]
  unfold takeBytes
  rw [Guarded.prefixOf_of_le _ (by simp), Guarded.pure_bind]
  simp only [List.take_succ_cons, List.take_zero]
  rw [lengthAt_cons, Guarded.pure_bind, Guarded.sliceFrom_of_le (by simp),
    Guarded.pure_bind, u32Le_leBytes hpart]
  simp only [List.drop_succ_cons, List.drop_zero]
  rw [Guarded.prefixOf_of_le _ (by simp), Guarded.pure_bind,
    Guarded.sliceFrom_of_le (by simp), Guarded.pure_bind, List.take_left,
    List.drop_left]

theorem lengthPrefixed_inj {part part' rest rest' : Bytes} (hpart : Short part)
    (hpart' : Short part') (h : lengthPrefixed part ++ rest = lengthPrefixed part' ++ rest') :
    part = part' ∧ rest = rest' := by
  have htake := takeBytes_lengthPrefixed .mls hpart rest
  rw [h, takeBytes_lengthPrefixed .mls hpart' rest'] at htake
  cases htake
  exact ⟨rfl, rfl⟩

theorem takeBytes_cases (missing : TwoMlsPqError) (bytes : Bytes) :
    (exists part rest, Short part ∧ lengthPrefixed part ++ rest = bytes) ∨
      takeBytes missing bytes = Guarded.refuse missing := by
  by_cases hshort : bytes.length < 4
  · right
    unfold takeBytes
    rw [Guarded.prefixOf_of_lt _ hshort]
    rfl
  rcases four_bytes hshort with ⟨a, b, c, d, rest, rfl⟩
  by_cases hrest : rest.length < u32Le a b c d
  · right
    unfold takeBytes
    rw [Guarded.prefixOf_of_le _ (by simp), Guarded.pure_bind]
    simp only [List.take_succ_cons, List.take_zero]
    rw [lengthAt_cons, Guarded.pure_bind, Guarded.sliceFrom_of_le (by simp),
      Guarded.pure_bind]
    simp only [List.drop_succ_cons, List.drop_zero]
    rw [Guarded.prefixOf_of_lt _ hrest]
    rfl
  · left
    have hpart : (rest.take (u32Le a b c d)).length = u32Le a b c d :=
      List.length_take_of_le (Nat.le_of_not_lt hrest)
    refine ⟨rest.take (u32Le a b c d), rest.drop (u32Le a b c d), ?_, ?_⟩
    · unfold Short
      rw [hpart]
      exact u32Le_lt a b c d
    · rw [lengthPrefixed_u32Le a b c d hpart]
      simp

/-!
## The plaintext
-/

def establishmentVectorTag : UInt8 :=
  0x07

structure InitialFrame where
  appPayload : Option Bytes
  welcome : Option Bytes
  returnKeyPackage : Option Bytes
  stapledMessage : Option Bytes
deriving DecidableEq

inductive OpenedInitial where
  | establishment (frame : InitialFrame)
  | bootstrapKp (frame : Bytes)
deriving DecidableEq

def InitialFrame.sections (frame : InitialFrame) : List (Option Bytes) :=
  [frame.appPayload, frame.welcome, frame.returnKeyPackage, frame.stapledMessage]

def initialPlaintext (frame : InitialFrame) : Bytes :=
  establishmentVectorTag ::
    (frame.sections.map fun part => lengthPrefixed (part.getD [])).flatten

def present (bytes : Bytes) : Option Bytes :=
  if bytes = [] then none else some bytes

def takeSlots : Nat -> Bytes -> Decoder (List (Option Bytes) × Bytes)
  | 0, rest => pure ([], rest)
  | n + 1, rest => do
      let (bytes, rest) <- takeBytes .mls rest
      let (slots, rest) <- takeSlots n rest
      pure (present bytes :: slots, rest)

def decodeInitialPlaintext (plaintext : Bytes) : Decoder OpenedInitial :=
  match plaintext with
  | [] => Guarded.refuse .mls
  | tag :: body =>
      if tag = establishmentVectorTag then do
        let (slots, rest) <- takeSlots 4 body
        if rest ≠ [] then Guarded.refuse .mls
        else
          match slots with
          | [appPayload, welcome, returnKeyPackage, stapledMessage] =>
              if appPayload = none ∧ welcome = none then Guarded.refuse .mls
              else
                pure (.establishment
                  { appPayload := appPayload
                    welcome := welcome
                    returnKeyPackage := returnKeyPackage
                    stapledMessage := stapledMessage })
          | _ => Guarded.access none
      else if tag = pqFrameTag .bootstrapKeyPackage then
        pure (.bootstrapKp plaintext)
      else Guarded.refuse .mls

/-- What a host keys a replay-stable token on. -/
def InitialFrame.tokenPrefix (frame : InitialFrame) : Option Bytes :=
  match frame.appPayload with
  | some payload => some payload
  | none => frame.welcome

/-!
## The decoder is exact
-/

structure InitialFrame.WellFormed (frame : InitialFrame) : Prop where
  sections : forall part, some part ∈ frame.sections -> part ≠ [] ∧ Short part
  carries : ¬ (frame.appPayload = none ∧ frame.welcome = none)

def OpenedInitial.WellFormed : OpenedInitial -> Prop
  | .establishment frame => frame.WellFormed
  | .bootstrapKp frame => frame.head? = some (pqFrameTag .bootstrapKeyPackage)

def OpenedInitial.plaintext : OpenedInitial -> Bytes
  | .establishment frame => initialPlaintext frame
  | .bootstrapKp frame => frame

theorem present_getD {part : Option Bytes}
    (h : forall bytes, part = some bytes -> bytes ≠ []) :
    present (part.getD []) = part := by
  unfold present
  cases part with
  | none => rfl
  | some bytes =>
      rw [Option.getD_some, if_neg (h bytes rfl)]

theorem getD_present (bytes : Bytes) : (present bytes).getD [] = bytes := by
  unfold present
  by_cases h : bytes = []
  · rw [if_pos h, h]
    rfl
  · rw [if_neg h]
    rfl

theorem present_some {bytes part : Bytes} (h : some part = present bytes) :
    part ≠ [] ∧ part = bytes := by
  unfold present at h
  by_cases hbytes : bytes = []
  · rw [if_pos hbytes] at h
    cases h
  · rw [if_neg hbytes] at h
    cases h
    exact ⟨hbytes, rfl⟩

theorem InitialFrame.WellFormed.slot {frame : InitialFrame} (h : frame.WellFormed)
    {part : Option Bytes} (hmem : part ∈ frame.sections) :
    present (part.getD []) = part ∧ Short (part.getD []) := by
  cases part with
  | none =>
      constructor
      · rfl
      · unfold Short
        decide
  | some bytes =>
      rcases h.sections bytes hmem with ⟨hne, hshort⟩
      constructor
      · apply present_getD
        rintro _ ⟨⟩
        exact hne
      · exact hshort

theorem takeSlots_flatten (parts : List Bytes) (rest : Bytes)
    (hshort : forall part, part ∈ parts -> Short part) :
    takeSlots parts.length ((parts.map lengthPrefixed).flatten ++ rest) =
      pure (parts.map present, rest) := by
  induction parts with
  | nil => rfl
  | cons part parts ih =>
      have hrest := ih fun other hmem => hshort other (List.mem_cons_of_mem _ hmem)
      rw [List.map_cons, List.flatten_cons, List.length_cons, List.append_assoc]
      unfold takeSlots
      rw [takeBytes_lengthPrefixed _ (hshort part List.mem_cons_self), Guarded.pure_bind]
      dsimp only
      rw [hrest, Guarded.pure_bind]
      rfl

theorem takeSlots_cases (n : Nat) (bytes : Bytes) :
    (exists (parts : List Bytes) (rest : Bytes), parts.length = n ∧
      (forall part, part ∈ parts -> Short part) ∧
      (parts.map lengthPrefixed).flatten ++ rest = bytes) ∨
    takeSlots n bytes = Guarded.refuse .mls := by
  induction n generalizing bytes with
  | zero => exact Or.inl ⟨[], bytes, rfl, by simp, rfl⟩
  | succ n ih =>
      rcases takeBytes_cases .mls bytes with ⟨part, rest, hpart, rfl⟩ | hrefused
      · rcases ih rest with ⟨parts, last, hlength, hshort, rfl⟩ | hrefused
        · refine Or.inl ⟨part :: parts, last, ?_, ?_, ?_⟩
          · rw [List.length_cons, hlength]
          · intro other hmem
            rcases List.mem_cons.mp hmem with rfl | hmem
            · exact hpart
            · exact hshort other hmem
          · rw [List.map_cons, List.flatten_cons, List.append_assoc]
        · right
          unfold takeSlots
          rw [takeBytes_lengthPrefixed _ hpart, Guarded.pure_bind]
          dsimp only
          rw [hrefused]
          rfl
      · right
        unfold takeSlots
        rw [hrefused]
        rfl

theorem decodeInitialPlaintext_sections (a w r m : Bytes)
    (hshort : forall part, part ∈ [a, w, r, m] -> Short part) :
    decodeInitialPlaintext
        (establishmentVectorTag :: ([a, w, r, m].map lengthPrefixed).flatten) =
      if present a = none ∧ present w = none then Guarded.refuse .mls
      else
        pure (.establishment
          { appPayload := present a
            welcome := present w
            returnKeyPackage := present r
            stapledMessage := present m }) := by
  have hslots := takeSlots_flatten [a, w, r, m] [] hshort
  rw [List.append_nil] at hslots
  change takeSlots 4 _ = _ at hslots
  unfold decodeInitialPlaintext
  dsimp only
  rw [if_pos rfl, hslots, Guarded.pure_bind]
  dsimp only
  rw [if_neg (by simp)]
  rfl

theorem decodeInitialPlaintext_initialPlaintext {frame : InitialFrame}
    (h : frame.WellFormed) :
    decodeInitialPlaintext (initialPlaintext frame) = pure (.establishment frame) := by
  rcases frame with ⟨app, welcome, returned, stapled⟩
  have hpart : forall part, part ∈ [app, welcome, returned, stapled] ->
      present (part.getD []) = part ∧ Short (part.getD []) := fun _ hmem => h.slot hmem
  have hshort : forall part,
      part ∈ [app.getD [], welcome.getD [], returned.getD [], stapled.getD []] ->
        Short part := by
    intro part hmem
    have hmap : part ∈
        [app, welcome, returned, stapled].map fun optional => optional.getD [] := hmem
    rcases List.mem_map.mp hmap with ⟨optional, hoptional, rfl⟩
    exact (hpart optional hoptional).2
  have hdecode := decodeInitialPlaintext_sections _ _ _ _ hshort
  rw [(hpart app (by simp)).1, (hpart welcome (by simp)).1, (hpart returned (by simp)).1,
    (hpart stapled (by simp)).1, if_neg h.carries] at hdecode
  exact hdecode

theorem decodeInitialPlaintext_cases (bytes : Bytes) :
    (exists opened : OpenedInitial, opened.WellFormed ∧ opened.plaintext = bytes) ∨
      exists e, decodeInitialPlaintext bytes = Guarded.refuse e := by
  cases bytes with
  | nil => exact Or.inr ⟨_, rfl⟩
  | cons tag body =>
      by_cases htag : tag = establishmentVectorTag
      · subst htag
        rcases takeSlots_cases 4 body with ⟨parts, rest, hlength, hshort, rfl⟩ | hrefused
        · by_cases hrest : rest = []
          · subst hrest
            match parts, hlength with
            | [a, w, r, m], _ =>
                have hdecode := decodeInitialPlaintext_sections a w r m hshort
                rw [List.append_nil]
                by_cases hnone : present a = none ∧ present w = none
                · rw [if_pos hnone] at hdecode
                  exact Or.inr ⟨_, hdecode⟩
                · refine Or.inl ⟨.establishment ⟨present a, present w, present r,
                    present m⟩, ?_, ?_⟩
                  · constructor
                    · intro part hmem
                      have hmap : some part ∈ [a, w, r, m].map present := hmem
                      rcases List.mem_map.mp hmap with ⟨bytes, hbytes, heq⟩
                      rcases present_some heq.symm with ⟨hne, rfl⟩
                      exact ⟨hne, hshort part hbytes⟩
                    · exact hnone
                  · unfold OpenedInitial.plaintext initialPlaintext InitialFrame.sections
                    simp only [List.map_cons, List.map_nil, getD_present]
          · right
            have hslots := takeSlots_flatten parts rest hshort
            rw [hlength] at hslots
            unfold decodeInitialPlaintext
            dsimp only
            rw [if_pos rfl, hslots, Guarded.pure_bind]
            dsimp only
            rw [if_pos hrest]
            exact ⟨_, rfl⟩
        · right
          unfold decodeInitialPlaintext
          dsimp only
          rw [if_pos rfl, hrefused]
          exact ⟨_, rfl⟩
      · by_cases hkp : tag = pqFrameTag .bootstrapKeyPackage
        · subst hkp
          exact Or.inl ⟨.bootstrapKp (_ :: body), rfl, rfl⟩
        · right
          unfold decodeInitialPlaintext
          dsimp only
          rw [if_neg htag, if_neg hkp]
          exact ⟨_, rfl⟩

theorem exact_initialPlaintext :
    Exact OpenedInitial.WellFormed OpenedInitial.plaintext decodeInitialPlaintext := by
  apply Exact.of_cases
  · intro opened h
    cases opened with
    | establishment frame => exact decodeInitialPlaintext_initialPlaintext h
    | bootstrapKp frame =>
        unfold OpenedInitial.plaintext
        cases frame with
        | nil => cases h
        | cons tag body =>
            have htag : tag = pqFrameTag .bootstrapKeyPackage := Option.some.inj h
            subst htag
            rfl
  · exact decodeInitialPlaintext_cases

/-!
## Sealing and opening
-/

structure HpkeSealed where
  kemOutput : Bytes
  ciphertext : Bytes

def frameHpkeBlob (out : HpkeSealed) : Bytes :=
  lengthPrefixed out.kemOutput ++ out.ciphertext

theorem takeBytes_frameHpkeBlob (missing : TwoMlsPqError) {out : HpkeSealed}
    (h : Short out.kemOutput) :
    takeBytes missing (frameHpkeBlob out) = pure (out.kemOutput, out.ciphertext) :=
  takeBytes_lengthPrefixed missing h out.ciphertext

def envelopeFramingVersion : UInt8 :=
  1

def envelopeFramingAad : Bytes :=
  envelopeFramingVersion :: ArchiveBytes.toWire ApqCipherSuite.declared

/-- The envelope suite's HPKE, with the init keys of a key package and of its private
half. -/
structure HpkeProvider (M : MlsRs) where
  hpkeInitKey : M.Message -> Bytes
  initKey : M.KeyPackageSecret -> Bytes
  hpkeSeal : Bytes -> Bytes -> Option Bytes -> Bytes -> M.Seed ->
    Except MlsError HpkeSealed
  hpkeOpen : HpkeSealed -> Bytes -> Bytes -> Bytes -> Option Bytes ->
    Except MlsError Bytes

section

variable {M : MlsRs} (H : HpkeProvider M)

def hpkeSealToKeyPackage (keyPackage : CombinerKeyPackage M) (plaintext : Bytes)
    (info aad : Option Bytes) (seed : M.Seed) : Result HpkeSealed := do
  let message <- keyPackage.pq.parsed.elim (.error .invalidKeyPackage) Except.ok
  let kp <- (M.intoKeyPackage message).elim (.error .invalidKeyPackage) Except.ok
  let info <-
    match info with
    | some info => .ok info
    | none => kp.credential.asBasic.elim (.error .invalidKeyPackage) Except.ok
  orError .mls (H.hpkeSeal (H.hpkeInitKey message) info aad plaintext seed)

def sealHpkeBlob (theirKp : CombinerKeyPackage M) (plaintext : Bytes) (seed : M.Seed) :
    Result Bytes := do
  let out <- hpkeSealToKeyPackage H theirKp plaintext none (some envelopeFramingAad) seed
  .ok (frameHpkeBlob out)

def sealInitialEnvelope (theirKp : CombinerKeyPackage M) (frame : InitialFrame)
    (seed : M.Seed) : Result Bytes :=
  sealHpkeBlob H theirKp (initialPlaintext frame) seed

def hpkeOpen (invitation : CombinerInvitation M) (out : HpkeSealed)
    (info aad : Option Bytes) : Result Bytes := do
  let message <- invitation.pqPublic.parsed.elim (.error .invalidKeyPackage) Except.ok
  let _ <- (M.intoKeyPackage message).elim (.error .invalidKeyPackage) Except.ok
  let kpd <- invitation.pqKpd.elim (.error .invitationSpent) Except.ok
  orError .decryptionFailed
    (H.hpkeOpen out (H.initKey kpd) (H.hpkeInitKey message)
      (info.getD invitation.clientId) aad)

def openInitial (invitation : CombinerInvitation M) (blob : Bytes) :
    Decoder OpenedInitial := do
  let (kemOutput, ciphertext) <- takeBytes .mls blob
  let plaintext <- Guarded.settled
    (hpkeOpen H invitation { kemOutput := kemOutput, ciphertext := ciphertext } none
      (some envelopeFramingAad))
  decodeInitialPlaintext plaintext

/-- What is sealed to a key opens under its private half, with the same info and the same
associated data; the encapsulation has a 32-bit length. -/
structure HpkeProvider.Inverts (publicKey secret : Bytes) : Prop where
  opens : forall {info aad plaintext seed out},
    H.hpkeSeal publicKey info aad plaintext seed = .ok out ->
      H.hpkeOpen out secret publicKey info aad = .ok plaintext
  short : forall {info aad plaintext seed out},
    H.hpkeSeal publicKey info aad plaintext seed = .ok out -> Short out.kemOutput

/-- The invitation published this key package and still holds its private half. -/
structure Publishes (invitation : CombinerInvitation M) (kp : CombinerKeyPackage M) :
    Prop where
  published : invitation.pqPublic = kp.pq
  owner : keyPackageClientId kp.pq = .ok invitation.clientId
  held : exists message kpd, kp.pq.parsed = some message ∧
    invitation.pqKpd = some kpd ∧ H.Inverts (H.hpkeInitKey message) (H.initKey kpd)

variable {H}

theorem openInitial_sealHpkeBlob {invitation : CombinerInvitation M}
    {kp : CombinerKeyPackage M} (hpublishes : Publishes H invitation kp)
    {plaintext blob : Bytes} {seed : M.Seed}
    (h : sealHpkeBlob H kp plaintext seed = .ok blob) :
    openInitial H invitation blob = decodeInitialPlaintext plaintext := by
  rcases hpublishes.held with ⟨message, kpd, hmessage, hkpd, hinverts⟩
  have howner := hpublishes.owner
  unfold keyPackageClientId parseMlsKeyPackage at howner
  rw [hmessage, Option.bind_some] at howner
  cases hinfo : M.intoKeyPackage message with
  | none =>
      rw [hinfo] at howner
      cases howner
  | some kpInfo =>
      rw [hinfo] at howner
      dsimp only at howner
      cases hid : kpInfo.credential.asBasic with
      | none =>
          rw [hid] at howner
          cases howner
      | some identifier =>
          rw [hid] at howner
          have hidentifier : identifier = invitation.clientId := Except.ok.inj howner
          subst hidentifier
          unfold sealHpkeBlob hpkeSealToKeyPackage at h
          rw [hmessage] at h
          simp only [bind, Except.bind, Option.elim_some, hinfo, hid] at h
          cases hseal : H.hpkeSeal (H.hpkeInitKey message) invitation.clientId
              (some envelopeFramingAad) plaintext seed with
          | error e =>
              rw [hseal] at h
              cases h
          | ok out =>
              rw [hseal] at h
              have hblob : frameHpkeBlob out = blob := Except.ok.inj h
              subst hblob
              have hopen : hpkeOpen H invitation out none (some envelopeFramingAad) =
                  .ok plaintext := by
                unfold hpkeOpen
                rw [hpublishes.published, hmessage, hkpd]
                simp only [bind, Except.bind, Option.elim_some, hinfo, Option.getD_none]
                rw [hinverts.opens hseal]
                rfl
              unfold openInitial
              rw [takeBytes_frameHpkeBlob _ (hinverts.short hseal), Guarded.pure_bind]
              dsimp only
              rw [hopen, Guarded.settled_ok, Guarded.pure_bind]

end

/-!
## The stable prefix
-/

section

variable {M : MlsRs}

def InitialEnvelope.sections (e : InitialEnvelope M) : InitialFrame :=
  { appPayload := e.appPayload
    welcome := e.welcome.map WelcomeBytes.bytes
    returnKeyPackage := e.returnKeyPackage.map Blob.bytes
    stapledMessage := e.stapled.map Blob.bytes }

def initiatorSections (s : SessionInner M) (welcome : WelcomeBytes M) : InitialFrame :=
  match s.establishment.initialAppPayload with
  | some payload =>
      { appPayload := some payload
        welcome := none
        returnKeyPackage := none
        stapledMessage := none }
  | none =>
      { appPayload := none
        welcome := some welcome.bytes
        returnKeyPackage := s.establishment.initialReturnKp.map Blob.bytes
        stapledMessage := none }

theorem composeInitialEnvelope_sections {s s' : SessionInner M} {stapled : Option (Blob M)}
    {seed : M.Seed} {e : InitialEnvelope M}
    (h : (composeInitialEnvelope stapled seed).run s = (.ok e, s')) :
    exists welcome, stapledWelcome s = some welcome ∧
      e.sections =
        { initiatorSections s welcome with stapledMessage := stapled.map Blob.bytes } := by
  unfold composeInitialEnvelope at h
  rcases Op.bind_ok h with ⟨_, _, hstate, h⟩
  cases hstate
  rcases Op.bind_ok h with ⟨theirKp, _, htarget, h⟩
  rcases Op.ofOption_ok htarget with ⟨_, rfl⟩
  rcases Op.bind_ok h with ⟨welcome, _, hread, h⟩
  rcases Op.ofOption_ok hread with ⟨hwelcome, rfl⟩
  rcases Op.bind_ok h with ⟨_, _, hseal, h⟩
  rcases Op.ofExcept_ok hseal with ⟨_, rfl⟩
  refine ⟨welcome, hwelcome, ?_⟩
  unfold initiatorSections
  cases hpayload : s.establishment.initialAppPayload with
  | some payload =>
      rw [hpayload] at h
      cases h
      rfl
  | none =>
      rw [hpayload] at h
      cases h
      rfl

theorem InitialFrame.WellFormed.prefix_of_plaintext {frame composed : InitialFrame}
    (hwell : frame.WellFormed) (h : initialPlaintext frame = initialPlaintext composed)
    (happ : Short (composed.appPayload.getD []))
    (hwelcome : Short (composed.welcome.getD [])) :
    frame.appPayload = present (composed.appPayload.getD []) ∧
      frame.welcome = present (composed.welcome.getD []) := by
  have hfirst : frame.appPayload ∈ frame.sections := List.mem_cons_self
  have hsecond : frame.welcome ∈ frame.sections :=
    List.mem_cons_of_mem _ List.mem_cons_self
  rcases hwell.slot hfirst with ⟨hpresent, hshort⟩
  rcases hwell.slot hsecond with ⟨hpresent', hshort'⟩
  have hbody := (List.cons.inj h).2
  unfold InitialFrame.sections at hbody
  simp only [List.map_cons, List.map_nil, List.flatten_cons, List.flatten_nil] at hbody
  rcases lengthPrefixed_inj hshort happ hbody with ⟨heq, hbody⟩
  rcases lengthPrefixed_inj hshort' hwelcome hbody with ⟨heq', _⟩
  rw [← heq, ← heq', hpresent, hpresent']
  exact ⟨rfl, rfl⟩

theorem tokenPrefix_of_composed {s : SessionInner M} {welcome : WelcomeBytes M}
    {stapled : Option Bytes} {frame : InitialFrame}
    (happ : Short ((initiatorSections s welcome).appPayload.getD []))
    (hwelcome : Short ((initiatorSections s welcome).welcome.getD []))
    (h : decodeInitialPlaintext
      (initialPlaintext { initiatorSections s welcome with stapledMessage := stapled }) =
        pure (.establishment frame)) :
    frame.tokenPrefix =
      match present ((initiatorSections s welcome).appPayload.getD []) with
      | some payload => some payload
      | none => present ((initiatorSections s welcome).welcome.getD []) := by
  rcases exact_initialPlaintext.of_decode h with ⟨hwell, hplaintext⟩
  rcases InitialFrame.WellFormed.prefix_of_plaintext hwell hplaintext happ hwelcome with
    ⟨hfirst, hsecond⟩
  unfold InitialFrame.tokenPrefix
  rw [hfirst, hsecond]

/-- The decoder gives back what was composed and takes nothing else, an invitation opens
what was sealed to its key package, and the prefix a token is keyed on is a matter of the
initiator's state alone. -/
theorem initial_envelope_reads_back (H : HpkeProvider M) :
    Exact OpenedInitial.WellFormed OpenedInitial.plaintext decodeInitialPlaintext ∧
    (forall (missing : TwoMlsPqError) (out : HpkeSealed), Short out.kemOutput ->
      takeBytes missing (frameHpkeBlob out) = pure (out.kemOutput, out.ciphertext)) ∧
    (forall (invitation : CombinerInvitation M) (kp : CombinerKeyPackage M)
        (frame : InitialFrame) (seed : M.Seed) (blob : Bytes),
      Publishes H invitation kp -> frame.WellFormed ->
        sealInitialEnvelope H kp frame seed = .ok blob ->
          openInitial H invitation blob = pure (.establishment frame)) ∧
    (forall (s s₁ s₂ : SessionInner M) (stapled stapled' : Option (Blob M))
        (seed seed' : M.Seed) (e e' : InitialEnvelope M),
      (composeInitialEnvelope stapled seed).run s = (.ok e, s₁) ->
        (composeInitialEnvelope stapled' seed').run s = (.ok e', s₂) ->
          e.sections.tokenPrefix = e'.sections.tokenPrefix ∧
          (Short (e.sections.appPayload.getD []) ->
            Short (e.sections.welcome.getD []) ->
              forall frame frame',
                decodeInitialPlaintext (initialPlaintext e.sections) =
                    pure (.establishment frame) ->
                  decodeInitialPlaintext (initialPlaintext e'.sections) =
                      pure (.establishment frame') ->
                    frame.tokenPrefix = frame'.tokenPrefix)) := by
  constructor
  · exact exact_initialPlaintext
  constructor
  · intro missing out hshort
    exact takeBytes_frameHpkeBlob missing hshort
  constructor
  · intro invitation kp frame seed blob hpublishes hwell hseal
    rw [openInitial_sealHpkeBlob hpublishes hseal]
    exact decodeInitialPlaintext_initialPlaintext hwell
  · intro s s₁ s₂ stapled stapled' seed seed' e e' h h'
    rcases composeInitialEnvelope_sections h with ⟨welcome, hwelcome, he⟩
    rcases composeInitialEnvelope_sections h' with ⟨_, hsame, he'⟩
    rw [hwelcome] at hsame
    cases hsame
    rw [he, he']
    constructor
    · rfl
    · intro hshort hshort' frame frame' hdecode hdecode'
      rw [tokenPrefix_of_composed hshort hshort' hdecode,
        tokenPrefix_of_composed hshort hshort' hdecode']

end

/-!
## An envelope of two sections
-/

namespace ReferenceEnvelope

def binding (key info : Bytes) (aad : Option Bytes) (kemOutput : Bytes) : Bytes :=
  Reference.sha256 (key ++ info ++ aad.getD [] ++ kemOutput)

/-- A key pair is its init number; the encapsulation is the drawn value. -/
def hpke : HpkeProvider Reference.mls where
  hpkeInitKey
    | .keyPackage _ _ init => Reference.squeeze 4 init
    | _ => []
  initKey kpd := Reference.squeeze 4 kpd.init
  hpkeSeal key info aad plaintext nonce :=
    .ok
      { kemOutput := Reference.squeeze 4 nonce
        ciphertext := binding key info aad (Reference.squeeze 4 nonce) ++ plaintext }
  hpkeOpen out secret _ info aad :=
    Reference.aeadOpen (binding secret info aad out.kemOutput) out.ciphertext

theorem hpke_inverts (key : Bytes) : hpke.Inverts key key where
  opens := by
    intro info aad plaintext seed out h
    cases h
    change Reference.aeadOpen _ _ = _
    unfold Reference.aeadOpen
    rw [List.take_left, if_pos rfl, List.drop_left]
  short := by
    intro info aad plaintext seed out h
    cases h
    have hlength := Reference.length_squeeze 4 seed
    change (Reference.squeeze 4 seed).length < 2 ^ 32
    omega

def invitation : CombinerInvitation Reference.mls :=
  ReferenceInvitation.shared.inner.invitation

def published : CombinerKeyPackage Reference.mls :=
  { classical := invitation.classicalPublic, pq := invitation.pqPublic }

def frame : InitialFrame :=
  { appPayload := none
    welcome := some [1, 2]
    returnKeyPackage := none
    stapledMessage := some [9, 4] }

theorem frame_wellFormed : frame.WellFormed := by
  constructor
  · intro part hmem
    have hcases : part = [1, 2] ∨ part = [9, 4] := by
      simpa [InitialFrame.sections, frame] using hmem
    rcases hcases with rfl | rfl
    · exact ⟨by decide, by unfold Short; decide⟩
    · exact ⟨by decide, by unfold Short; decide⟩
  · decide

def keyMessage : Option Reference.Message :=
  published.pq.parsed

def seed : Reference.mls.Seed :=
  (5 : Nat)

def blob : Bytes :=
  ((sealInitialEnvelope hpke published frame seed).toOption).getD []

/-- The invitation publishes what it opens, and the frame is sealed to it. -/
theorem publication :
    (keyMessage.isSome = true ∧ invitation.pqKpd.isSome = true ∧
      keyMessage.map hpke.hpkeInitKey = invitation.pqKpd.map hpke.initKey) ∧
    keyPackageClientId published.pq = .ok invitation.clientId ∧
    sealInitialEnvelope hpke published frame seed = .ok blob := by
  decide +kernel

theorem invitation_publishes : Publishes hpke invitation published where
  published := rfl
  owner := publication.2.1
  held := by
    rcases publication.1 with ⟨hmessage, hkpd, hpair⟩
    rcases Option.isSome_iff_exists.mp hmessage with ⟨m, hm⟩
    rcases Option.isSome_iff_exists.mp hkpd with ⟨kpd, hkpd⟩
    rw [hm, hkpd] at hpair
    have hsame : hpke.hpkeInitKey m = hpke.initKey kpd := Option.some.inj hpair
    refine ⟨m, kpd, hm, hkpd, ?_⟩
    rw [hsame]
    exact hpke_inverts _

end ReferenceEnvelope

theorem reference_envelope_reads_back :
    openInitial ReferenceEnvelope.hpke ReferenceEnvelope.invitation
        ReferenceEnvelope.blob =
      pure (.establishment ReferenceEnvelope.frame) :=
  (initial_envelope_reads_back ReferenceEnvelope.hpke).2.2.1
    ReferenceEnvelope.invitation ReferenceEnvelope.published ReferenceEnvelope.frame
    ReferenceEnvelope.seed ReferenceEnvelope.blob ReferenceEnvelope.invitation_publishes
    ReferenceEnvelope.frame_wellFormed ReferenceEnvelope.publication.2.2

end Session
end TwoMlsPq
