import TwoMlsPq.Foundation.Decoding
import TwoMlsPq.Apq.Reference
import TwoMlsPq.Session.Sending

/-!
# The wire format

The frame layer: the tag bytes, the length-prefixed encoders and the
attacker-facing decoders, and how a receiver reads the structured frames of
the session model out of bytes.  Every tag is odd, and an MLS message starts
with the zero byte of its protocol version, so the staple slot of a message
frame is told apart by its first byte alone.
-/

namespace TwoMlsPq
namespace Session

open Foundation Apq

abbrev Decoder : Type -> Type :=
  Guarded TwoMlsPqError

/-!
## Tags
-/

def messageFrameTag : UInt8 :=
  0x03

def apqPrivateMessageTag : UInt8 :=
  0x05

def preEstablishmentAppTag : UInt8 :=
  0x09

def establishmentHandoffTag : UInt8 :=
  0x0B

/-!
## APQ pairs
-/

def encodeApqWelcome (classical pq : Bytes) : Bytes :=
  encodeApqPair apqTag classical pq

def encodeApqPrivateMessage (tMessage pqMessage : Bytes) : Bytes :=
  encodeApqPair apqPrivateMessageTag tMessage pqMessage

def decodeApqPair (bytes : Bytes) (expectTag : UInt8) : Decoder (Bytes × Bytes) :=
  match bytes with
  | [] => Guarded.refuse .mls
  | tag :: rest =>
      if tag ≠ expectTag then Guarded.refuse .mls
      else if rest.length < 4 then Guarded.refuse .mls
      else do
        let aLen <- lengthAt rest
        let rest <- Guarded.sliceFrom rest 4
        if rest.length < 4 then Guarded.refuse .mls
        else do
          let room <- Guarded.checkedSub rest.length 4
          if room < aLen then Guarded.refuse .mls
          else do
            let a <- Guarded.sliceTo rest aLen
            let rest <- Guarded.sliceFrom rest aLen
            let bLen <- lengthAt rest
            let rest <- Guarded.sliceFrom rest 4
            if rest.length ≠ bLen then Guarded.refuse .mls else pure (a, rest)

def decodeApqWelcome (bytes : Bytes) : Decoder (Bytes × Bytes) :=
  decodeApqPair bytes apqTag

def decodeApqPrivateMessage (bytes : Bytes) : Decoder (Bytes × Bytes) :=
  decodeApqPair bytes apqPrivateMessageTag

/-!
## Handoffs and message frames
-/

def encodeEstablishmentHandoff (envelope welcome : Bytes) : Bytes :=
  establishmentHandoffTag :: (lengthPrefixed envelope ++ lengthPrefixed welcome)

def decodeEstablishmentHandoff (bytes : Bytes) : Decoder (Bytes × Bytes) :=
  match bytes with
  | [] => Guarded.refuse .mls
  | tag :: body =>
      if tag ≠ establishmentHandoffTag then Guarded.refuse .mls
      else do
        let sections <- readSections .mls 2 body
        match sections with
        | [envelope, welcome] =>
            if envelope = [] ∨ welcome.head? ≠ some apqTag then Guarded.refuse .mls
            else pure (envelope, welcome)
        | _ => Guarded.access none

def encodeMessageFrame (staple proposal app : Bytes) : Bytes :=
  messageFrameTag ::
    (lengthPrefixed staple ++ lengthPrefixed proposal ++ lengthPrefixed app)

def decodeMessageFrame (bytes : Bytes) : Decoder (Bytes × Bytes × Bytes) :=
  match bytes with
  | [] => Guarded.refuse .mls
  | tag :: rest =>
      if tag ≠ messageFrameTag then Guarded.refuse .mls
      else do
        let sections <- readSections .mls 3 rest
        match sections with
        | [staple, proposal, app] =>
            if staple = [] ∨ proposal = [] ∨ app = [] then Guarded.refuse .mls
            else pure (staple, proposal, app)
        | _ => Guarded.access none

def encodeProposalSection (proposing proposal : Bytes) : Bytes :=
  leBytes proposing.length ++ proposing ++ proposal

def decodeProposalSection (bytes : Bytes) : Decoder (Bytes × Bytes) :=
  if bytes.length < 4 then Guarded.refuse .mls
  else do
    let len <- lengthAt bytes
    let rest <- Guarded.sliceFrom bytes 4
    if len = 0 ∨ rest.length <= len then Guarded.refuse .mls
    else do
      let proposing <- Guarded.sliceTo rest len
      let proposal <- Guarded.sliceFrom rest len
      pure (proposing, proposal)

/-!
## The decoders are exact
-/

def Short (part : Bytes) : Prop :=
  part.length < 2 ^ 32

theorem encodeApqPair_eq (tag : UInt8) (a b : Bytes) :
    encodeApqPair tag a b = tag :: (lengthPrefixed a ++ lengthPrefixed b) := by
  unfold encodeApqPair lengthPrefixed leU32 leBytes
  simp

theorem decodeApqPair_encode (tag : UInt8) {a b : Bytes} (ha : Short a) (hb : Short b) :
    decodeApqPair (encodeApqPair tag a b) tag = pure (a, b) := by
  rw [encodeApqPair_eq, lengthPrefixed_append]
  unfold decodeApqPair
  dsimp only
  rw [if_neg (by simp), if_neg (by simp), lengthAt_cons, Guarded.pure_bind,
    Guarded.sliceFrom_of_le (by simp), Guarded.pure_bind, u32Le_leBytes ha]
  simp only [List.drop_succ_cons, List.drop_zero]
  have hroom : (a ++ lengthPrefixed b).length = a.length + (4 + b.length) := by
    simp [lengthPrefixed, leBytes]
    omega
  rw [if_neg (by omega), Guarded.checkedSub_of_le (by omega), Guarded.pure_bind,
    if_neg (by omega), Guarded.sliceTo_of_le (by omega), Guarded.pure_bind,
    Guarded.sliceFrom_of_le (by omega), Guarded.pure_bind, List.take_left,
    List.drop_left]
  have hprefixed := lengthPrefixed_append b []
  rw [List.append_nil, List.append_nil] at hprefixed
  rw [hprefixed, lengthAt_cons, Guarded.pure_bind, Guarded.sliceFrom_of_le (by simp),
    Guarded.pure_bind, u32Le_leBytes hb]
  simp only [List.drop_succ_cons, List.drop_zero]
  rw [if_neg (by simp)]

theorem decodeApqPair_cases (tag : UInt8) (bytes : Bytes) :
    (exists x : Bytes × Bytes, (Short x.1 ∧ Short x.2) ∧
      encodeApqPair tag x.1 x.2 = bytes) ∨
    exists e, decodeApqPair bytes tag = Guarded.refuse e := by
  unfold decodeApqPair
  cases bytes with
  | nil => exact Or.inr ⟨_, rfl⟩
  | cons first rest =>
      dsimp only
      by_cases htag : first ≠ tag
      · rw [if_pos htag]
        exact Or.inr ⟨_, rfl⟩
      rw [if_neg htag]
      by_cases hshort : rest.length < 4
      · rw [if_pos hshort]
        exact Or.inr ⟨_, rfl⟩
      rw [if_neg hshort]
      rcases four_bytes hshort with ⟨a₀, a₁, a₂, a₃, rest, rfl⟩
      rw [lengthAt_cons, Guarded.pure_bind, Guarded.sliceFrom_of_le (by simp),
        Guarded.pure_bind]
      simp only [List.drop_succ_cons, List.drop_zero]
      by_cases hfour : rest.length < 4
      · rw [if_pos hfour]
        exact Or.inr ⟨_, rfl⟩
      rw [if_neg hfour, Guarded.checkedSub_of_le (by omega), Guarded.pure_bind]
      by_cases hroom : rest.length - 4 < u32Le a₀ a₁ a₂ a₃
      · rw [if_pos hroom]
        exact Or.inr ⟨_, rfl⟩
      rw [if_neg hroom]
      have hle : u32Le a₀ a₁ a₂ a₃ <= rest.length := by omega
      have hafter : (rest.drop (u32Le a₀ a₁ a₂ a₃)).length =
          rest.length - u32Le a₀ a₁ a₂ a₃ := List.length_drop
      rw [Guarded.sliceTo_of_le hle, Guarded.pure_bind, Guarded.sliceFrom_of_le hle,
        Guarded.pure_bind]
      rcases four_bytes (l := rest.drop (u32Le a₀ a₁ a₂ a₃)) (by omega) with
        ⟨b₀, b₁, b₂, b₃, last, hlast⟩
      rw [hlast, lengthAt_cons, Guarded.pure_bind, Guarded.sliceFrom_of_le (by simp),
        Guarded.pure_bind]
      simp only [List.drop_succ_cons, List.drop_zero]
      by_cases hlength : last.length ≠ u32Le b₀ b₁ b₂ b₃
      · rw [if_pos hlength]
        exact Or.inr ⟨_, rfl⟩
      have hb : last.length = u32Le b₀ b₁ b₂ b₃ := Classical.not_not.mp hlength
      have ha : (rest.take (u32Le a₀ a₁ a₂ a₃)).length = u32Le a₀ a₁ a₂ a₃ :=
        List.length_take_of_le hle
      refine Or.inl ⟨(rest.take (u32Le a₀ a₁ a₂ a₃), last), ⟨?_, ?_⟩, ?_⟩
      · unfold Short
        dsimp only
        rw [ha]
        exact u32Le_lt _ _ _ _
      · unfold Short
        dsimp only
        rw [hb]
        exact u32Le_lt _ _ _ _
      · rw [encodeApqPair_eq, lengthPrefixed_u32Le _ _ _ _ ha,
          lengthPrefixed_u32Le _ _ _ _ hb, ← hlast, Classical.not_not.mp htag]
        simp

theorem exact_apqPair (tag : UInt8) :
    Exact (fun x : Bytes × Bytes => Short x.1 ∧ Short x.2)
      (fun x => encodeApqPair tag x.1 x.2) fun bytes => decodeApqPair bytes tag :=
  Exact.of_cases (fun _ hx => decodeApqPair_encode tag hx.1 hx.2)
    (decodeApqPair_cases tag)

theorem exact_establishmentHandoff :
    Exact (fun x : Bytes × Bytes => Short x.1 ∧ Short x.2 ∧ x.1 ≠ [] ∧
        x.2.head? = some apqTag)
      (fun x => encodeEstablishmentHandoff x.1 x.2) decodeEstablishmentHandoff := by
  apply Exact.of_cases
  · rintro ⟨envelope, welcome⟩ ⟨henvelope, hwelcome, hne, hhead⟩
    have hread := readSections_flatten TwoMlsPqError.mls [envelope, welcome]
      (by simp; exact ⟨henvelope, hwelcome⟩)
    simp only [List.map_cons, List.map_nil, List.flatten_cons, List.flatten_nil,
      List.append_nil, List.length_cons, List.length_nil] at hread
    unfold encodeEstablishmentHandoff decodeEstablishmentHandoff
    dsimp only
    rw [if_neg (by simp), hread, Guarded.pure_bind]
    dsimp only
    rw [if_neg (by simp [hne, hhead])]
  · intro bytes
    unfold decodeEstablishmentHandoff
    cases bytes with
    | nil => exact Or.inr ⟨_, rfl⟩
    | cons tag body =>
        dsimp only
        by_cases htag : tag ≠ establishmentHandoffTag
        · rw [if_pos htag]
          exact Or.inr ⟨_, rfl⟩
        rw [if_neg htag]
        rcases readSections_cases TwoMlsPqError.mls 2 body with
          ⟨slots, hlength, hshort, hbytes, hread⟩ | hread
        · rw [hread, Guarded.pure_bind]
          rcases List.length_eq_two.mp hlength with ⟨envelope, welcome, rfl⟩
          dsimp only
          by_cases hbad : envelope = [] ∨ welcome.head? ≠ some apqTag
          · rw [if_pos hbad]
            exact Or.inr ⟨_, rfl⟩
          rcases not_or.mp hbad with ⟨hne, hhead⟩
          refine Or.inl ⟨(envelope, welcome), ⟨hshort _ (by simp), hshort _ (by simp),
            hne, Classical.not_not.mp hhead⟩, ?_⟩
          unfold encodeEstablishmentHandoff
          rw [← hbytes, Classical.not_not.mp htag]
          simp
        · rw [hread]
          exact Or.inr ⟨_, rfl⟩

theorem exact_messageFrame :
    Exact (fun x : Bytes × Bytes × Bytes => (Short x.1 ∧ Short x.2.1 ∧ Short x.2.2) ∧
        x.1 ≠ [] ∧ x.2.1 ≠ [] ∧ x.2.2 ≠ [])
      (fun x => encodeMessageFrame x.1 x.2.1 x.2.2) decodeMessageFrame := by
  apply Exact.of_cases
  · rintro ⟨staple, proposal, app⟩ ⟨⟨hstaple, hproposal, happ⟩, hne₁, hne₂, hne₃⟩
    have hread := readSections_flatten TwoMlsPqError.mls
      [staple, proposal, app]
      (by simp; exact ⟨hstaple, hproposal, happ⟩)
    simp only [List.map_cons, List.map_nil, List.flatten_cons, List.flatten_nil,
      List.append_nil, List.length_cons, List.length_nil] at hread
    unfold encodeMessageFrame decodeMessageFrame
    dsimp only
    rw [if_neg (by simp), List.append_assoc, hread, Guarded.pure_bind]
    dsimp only
    rw [if_neg]
    rintro (h | h | h)
    · exact hne₁ h
    · exact hne₂ h
    · exact hne₃ h
  · intro bytes
    unfold decodeMessageFrame
    cases bytes with
    | nil => exact Or.inr ⟨_, rfl⟩
    | cons tag body =>
        dsimp only
        by_cases htag : tag ≠ messageFrameTag
        · rw [if_pos htag]
          exact Or.inr ⟨_, rfl⟩
        rw [if_neg htag]
        rcases readSections_cases TwoMlsPqError.mls 3 body with
          ⟨slots, hlength, hshort, hbytes, hread⟩ | hread
        · rw [hread, Guarded.pure_bind]
          rcases List.length_eq_three.mp hlength with ⟨staple, proposal, app, rfl⟩
          dsimp only
          by_cases hbad : staple = [] ∨ proposal = [] ∨ app = []
          · rw [if_pos hbad]
            exact Or.inr ⟨_, rfl⟩
          rcases not_or.mp hbad with ⟨hne₁, hrest⟩
          rcases not_or.mp hrest with ⟨hne₂, hne₃⟩
          refine Or.inl ⟨(staple, proposal, app), ⟨⟨hshort _ (by simp),
            hshort _ (by simp), hshort _ (by simp)⟩, hne₁, hne₂, hne₃⟩, ?_⟩
          unfold encodeMessageFrame
          rw [← hbytes, Classical.not_not.mp htag]
          simp
        · rw [hread]
          exact Or.inr ⟨_, rfl⟩

theorem exact_proposalSection :
    Exact (fun x : Bytes × Bytes => Short x.1 ∧ x.1 ≠ [] ∧ x.2 ≠ [])
      (fun x => encodeProposalSection x.1 x.2) decodeProposalSection := by
  apply Exact.of_cases
  · rintro ⟨proposing, proposal⟩ ⟨hshort, hne, hne'⟩
    have hpos := List.length_pos_iff.mpr hne
    have hpos' := List.length_pos_iff.mpr hne'
    dsimp only at hpos hpos'
    have hencode : encodeProposalSection proposing proposal =
        lengthPrefixed proposing ++ proposal := rfl
    dsimp only
    rw [hencode, lengthPrefixed_append]
    unfold decodeProposalSection
    rw [if_neg (by simp), lengthAt_cons, Guarded.pure_bind,
      Guarded.sliceFrom_of_le (by simp), Guarded.pure_bind, u32Le_leBytes hshort]
    simp only [List.drop_succ_cons, List.drop_zero]
    rw [if_neg (by simp only [List.length_append]; omega),
      Guarded.sliceTo_of_le (by simp), Guarded.pure_bind,
      Guarded.sliceFrom_of_le (by simp), Guarded.pure_bind, List.take_left,
      List.drop_left]
  · intro bytes
    unfold decodeProposalSection
    by_cases hfour : bytes.length < 4
    · rw [if_pos hfour]
      exact Or.inr ⟨_, rfl⟩
    rw [if_neg hfour]
    rcases four_bytes hfour with ⟨a, b, c, d, rest, rfl⟩
    rw [lengthAt_cons, Guarded.pure_bind, Guarded.sliceFrom_of_le (by simp),
      Guarded.pure_bind]
    simp only [List.drop_succ_cons, List.drop_zero]
    by_cases hbad : u32Le a b c d = 0 ∨ rest.length <= u32Le a b c d
    · rw [if_pos hbad]
      exact Or.inr ⟨_, rfl⟩
    rcases not_or.mp hbad with ⟨hzero, hlong⟩
    have hle : u32Le a b c d <= rest.length := by omega
    have htake : (rest.take (u32Le a b c d)).length = u32Le a b c d :=
      List.length_take_of_le hle
    refine Or.inl ⟨(rest.take (u32Le a b c d), rest.drop (u32Le a b c d)),
      ⟨?_, ?_, ?_⟩, ?_⟩
    · unfold Short
      rw [htake]
      exact u32Le_lt _ _ _ _
    · apply List.length_pos_iff.mp
      dsimp only
      omega
    · apply List.length_pos_iff.mp
      dsimp only
      rw [List.length_drop]
      omega
    · change leBytes (rest.take (u32Le a b c d)).length ++ _ ++ _ = _
      rw [htake, leBytes_u32Le]
      simp

/-!
## The staple slot
-/

inductive StapleKind where
  | handoff
  | welcome
  | bind
  | commit
deriving DecidableEq, Repr

/-- How `process_incoming` tells the forms of a staple apart. -/
def stapleKind (staple : Bytes) : StapleKind :=
  if staple.head? = some establishmentHandoffTag then .handoff
  else if staple.head? = some apqTag then .welcome
  else if staple.head? = some apqPrivateMessageTag then .bind
  else .commit

/-- What an honest sender puts into the staple slot: its welcome, bare or in a
handoff, a bind pair, or a commit as the library serialises it. -/
inductive StapleSent (M : MlsRs) : StapleKind -> Bytes -> Prop where
  | welcome (classical pq : Bytes) :
      StapleSent M .welcome (encodeApqWelcome classical pq)
  | handoff (envelope classical pq : Bytes) :
      StapleSent M .handoff
        (encodeEstablishmentHandoff envelope (encodeApqWelcome classical pq))
  | bind (tMessage pqMessage : Bytes) :
      StapleSent M .bind (encodeApqPrivateMessage tMessage pqMessage)
  | commit (m : M.Message) (bytes : Bytes) (h : M.toBytes m = .ok bytes) :
      StapleSent M .commit bytes

theorem stapleKind_sent {M : MlsRs} (F : Framed M) {kind : StapleKind} {staple : Bytes}
    (h : StapleSent M kind staple) :
    stapleKind staple = kind := by
  cases h with
  | welcome classical pq => rfl
  | handoff envelope classical pq => rfl
  | bind tMessage pqMessage => rfl
  | commit m bytes h =>
      unfold stapleKind
      rw [F.version m _ h]
      rfl

/-- Each decoder gives back what was encoded and refuses every other byte
string, and the first byte of a staple names its form. -/
theorem frame_codecs_exact {M : MlsRs} (F : Framed M) :
    Exact (fun x : Bytes × Bytes × Bytes => (Short x.1 ∧ Short x.2.1 ∧ Short x.2.2) ∧
        x.1 ≠ [] ∧ x.2.1 ≠ [] ∧ x.2.2 ≠ [])
      (fun x => encodeMessageFrame x.1 x.2.1 x.2.2) decodeMessageFrame ∧
    Exact (fun x : Bytes × Bytes => Short x.1 ∧ Short x.2 ∧ x.1 ≠ [] ∧
        x.2.head? = some apqTag)
      (fun x => encodeEstablishmentHandoff x.1 x.2) decodeEstablishmentHandoff ∧
    Exact (fun x : Bytes × Bytes => Short x.1 ∧ Short x.2)
      (fun x => encodeApqWelcome x.1 x.2) decodeApqWelcome ∧
    Exact (fun x : Bytes × Bytes => Short x.1 ∧ Short x.2)
      (fun x => encodeApqPrivateMessage x.1 x.2) decodeApqPrivateMessage ∧
    Exact (fun x : Bytes × Bytes => Short x.1 ∧ x.1 ≠ [] ∧ x.2 ≠ [])
      (fun x => encodeProposalSection x.1 x.2) decodeProposalSection ∧
    forall kind staple, StapleSent M kind staple -> stapleKind staple = kind := by
  refine ⟨exact_messageFrame, exact_establishmentHandoff, exact_apqPair apqTag,
    exact_apqPair apqPrivateMessageTag, exact_proposalSection, ?_⟩
  intro kind staple hsent
  exact stapleKind_sent F hsent

theorem reference_codecs_exact :
    Framed Reference.mls ∧
      decodeMessageFrame (encodeMessageFrame [0] [1] [2]) = pure ([0], [1], [2]) ∧
      decodeMessageFrame [messageFrameTag, 0] = Guarded.refuse .mls := by
  have hexact := (frame_codecs_exact Reference.framed).1
  refine ⟨Reference.framed, ?_, rfl⟩
  exact hexact.roundTrip ([0], [1], [2]) (by simp [Short])

/-- A handoff around a section that is no welcome is encoded but not decoded. -/
theorem handoff_without_welcome_refused :
    ¬ forall envelope welcome : Bytes, Short envelope -> Short welcome ->
      envelope ≠ [] -> welcome ≠ [] ->
      decodeEstablishmentHandoff (encodeEstablishmentHandoff envelope welcome) =
        pure (envelope, welcome) := by
  intro h
  have hdecoded := h [1] [2] (by simp [Short]) (by simp [Short]) (by simp) (by simp)
  have hrefused : decodeEstablishmentHandoff (encodeEstablishmentHandoff [1] [2]) =
      Guarded.refuse .mls := rfl
  rw [hrefused] at hdecoded
  cases hdecoded

/-!
## Reading the structured frames

What the session model calls a frame is what a receiver reads out of the
bytes, given how the library parses an MLS message.
-/

section

variable {M : MlsRs} (fromBytes : Bytes -> Option M.Message)

def pqFrameTag : PqFrameKind -> UInt8
  | .bootstrapKeyPackage => 0x13
  | .bootstrapWelcome => 0x15
  | .ratchetEphemeralKey => 0x17
  | .ratchetCiphertext => 0x19
  | .rekeyUpdate => 0x1B
  | .rekeyCommit => 0x1D

def pqFrameKind (tag : UInt8) : Option PqFrameKind :=
  if tag = 0x13 then some .bootstrapKeyPackage
  else if tag = 0x15 then some .bootstrapWelcome
  else if tag = 0x17 then some .ratchetEphemeralKey
  else if tag = 0x19 then some .ratchetCiphertext
  else if tag = 0x1B then some .rekeyUpdate
  else if tag = 0x1D then some .rekeyCommit
  else none

def readBlob (bytes : Bytes) : Blob M :=
  { bytes := bytes, parsed := fromBytes bytes }

def readWelcome (bytes : Bytes) : WelcomeBytes M :=
  { bytes := bytes
    decoded := (decodeApqWelcome bytes).value?.map fun halves =>
      { classical := readBlob fromBytes halves.1, pq := readBlob fromBytes halves.2 } }

def readStaple (bytes : Bytes) : Staple M :=
  match stapleKind bytes with
  | .handoff =>
      match (decodeEstablishmentHandoff bytes).value? with
      | some (envelope, welcome) => .handoff envelope (readWelcome fromBytes welcome)
      | none => .badHandoff
  | .welcome => .welcome (readWelcome fromBytes bytes)
  | .bind =>
      match (decodeApqPrivateMessage bytes).value? with
      | some (tMessage, pqMessage) =>
          .bind (readBlob fromBytes tMessage) (readBlob fromBytes pqMessage)
      | none => .badBind
  | .commit => .commit (readBlob fromBytes bytes)

def readProposal (bytes : Bytes) : ProposalSection M :=
  (decodeProposalSection bytes).value?.map fun parts =>
    (parts.1, readBlob fromBytes parts.2)

def readFrame (bytes : Bytes) : Frame M :=
  match bytes with
  | [] => .unknown
  | tag :: rest =>
      if tag = establishmentHandoffTag then
        match (decodeEstablishmentHandoff bytes).value? with
        | some (envelope, welcome) => .handoff envelope (readWelcome fromBytes welcome)
        | none => .badHandoff
      else if tag = apqTag then .welcome (readWelcome fromBytes bytes)
      else if tag = messageFrameTag then
        match (decodeMessageFrame bytes).value? with
        | some (staple, proposal, app) =>
            .message (readStaple fromBytes staple) (readProposal fromBytes proposal)
              (readBlob fromBytes app)
        | none => .badMessage
      else if tag = preEstablishmentAppTag then .preEstablishment (readBlob fromBytes rest)
      else
        match pqFrameKind tag with
        | some kind => .sideBand { kind := kind, body := readBlob fromBytes rest }
        | none => .unknown

def Staple.bytes : Staple M -> Bytes
  | .handoff envelope w => encodeEstablishmentHandoff envelope w.bytes
  | .welcome w => w.bytes
  | .bind tMessage pqMessage => encodeApqPrivateMessage tMessage.bytes pqMessage.bytes
  | .commit message => message.bytes
  | .badHandoff => []
  | .badBind => []

/-- The library parses the blob to what the model says it carries. -/
def Blob.Coherent (b : Blob M) : Prop :=
  b.parsed = fromBytes b.bytes ∧ Short b.bytes

inductive Staple.Sendable : Staple M -> Prop where
  | welcome (w : ApqWelcome M) (hc : Blob.Coherent fromBytes w.classical)
      (hp : Blob.Coherent fromBytes w.pq) :
      Sendable (.welcome (WelcomeBytes.ofWelcome w))
  | handoff (envelope : Bytes) (w : ApqWelcome M)
      (hc : Blob.Coherent fromBytes w.classical) (hp : Blob.Coherent fromBytes w.pq)
      (hne : envelope ≠ []) (he : Short envelope) (hw : Short w.encode) :
      Sendable (.handoff envelope (WelcomeBytes.ofWelcome w))
  | bind (tMessage pqMessage : Blob M) (ht : Blob.Coherent fromBytes tMessage)
      (hp : Blob.Coherent fromBytes pqMessage) :
      Sendable (.bind tMessage pqMessage)
  | commit (message : Blob M) (m : M.Message) (h : M.toBytes m = .ok message.bytes)
      (hc : Blob.Coherent fromBytes message) :
      Sendable (.commit message)

theorem readBlob_bytes {b : Blob M} (h : Blob.Coherent fromBytes b) :
    readBlob fromBytes b.bytes = b := by
  unfold readBlob
  rw [← h.1]

theorem readWelcome_encode {w : ApqWelcome M} (hc : Blob.Coherent fromBytes w.classical)
    (hp : Blob.Coherent fromBytes w.pq) :
    readWelcome fromBytes w.encode = WelcomeBytes.ofWelcome w := by
  have hdecode : decodeApqWelcome w.encode = pure (w.classical.bytes, w.pq.bytes) :=
    decodeApqPair_encode apqTag hc.2 hp.2
  unfold readWelcome WelcomeBytes.ofWelcome
  rw [hdecode, Guarded.value?_pure, Option.map_some, readBlob_bytes fromBytes hc,
    readBlob_bytes fromBytes hp]

theorem readStaple_bytes (F : Framed M) {staple : Staple M}
    (h : Staple.Sendable fromBytes staple) :
    readStaple fromBytes staple.bytes = staple := by
  unfold readStaple
  cases h with
  | welcome w hc hp =>
      have hkind : stapleKind (Staple.welcome (WelcomeBytes.ofWelcome w)).bytes =
          .welcome := rfl
      rw [hkind]
      exact congrArg Staple.welcome (readWelcome_encode fromBytes hc hp)
  | handoff envelope w hc hp hne he hw =>
      have hkind : stapleKind (Staple.handoff envelope (WelcomeBytes.ofWelcome w)).bytes =
          .handoff := rfl
      have hdecode := exact_establishmentHandoff.roundTrip (envelope, w.encode)
        ⟨he, hw, hne, rfl⟩
      have hbytes : (Staple.handoff envelope (WelcomeBytes.ofWelcome w)).bytes =
          encodeEstablishmentHandoff envelope w.encode := rfl
      rw [hkind]
      dsimp only at hdecode ⊢
      rw [hbytes, hdecode, Guarded.value?_pure]
      dsimp only
      rw [readWelcome_encode fromBytes hc hp]
  | bind tMessage pqMessage ht hp =>
      have hkind : stapleKind (Staple.bind tMessage pqMessage).bytes = .bind := rfl
      have hdecode : decodeApqPrivateMessage (Staple.bind tMessage pqMessage).bytes =
          pure (tMessage.bytes, pqMessage.bytes) :=
        decodeApqPair_encode apqPrivateMessageTag ht.2 hp.2
      rw [hkind]
      dsimp only
      rw [hdecode, Guarded.value?_pure]
      dsimp only
      rw [readBlob_bytes fromBytes ht, readBlob_bytes fromBytes hp]
  | commit message m h hc =>
      have hkind : stapleKind (Staple.commit message).bytes = .commit :=
        stapleKind_sent F (StapleSent.commit m _ h)
      rw [hkind]
      exact congrArg Staple.commit (readBlob_bytes fromBytes hc)

theorem readFrame_message (F : Framed M) {staple : Staple M} {proposing : Bytes}
    {proposal app : Blob M} (hstaple : Staple.Sendable fromBytes staple)
    (hshort : Short staple.bytes) (hne : staple.bytes ≠ [])
    (hproposing : Short proposing) (hproposing' : proposing ≠ [])
    (hproposal : Blob.Coherent fromBytes proposal) (hproposal' : proposal.bytes ≠ [])
    (hsection : Short (encodeProposalSection proposing proposal.bytes))
    (happ : Blob.Coherent fromBytes app) (happ' : app.bytes ≠ []) :
    readFrame fromBytes
      (encodeMessageFrame staple.bytes (encodeProposalSection proposing proposal.bytes)
        app.bytes) = .message staple (some (proposing, proposal)) app := by
  have hsectionNe : encodeProposalSection proposing proposal.bytes ≠ [] := by
    simp [encodeProposalSection, leBytes]
  have hframe := exact_messageFrame.roundTrip
    (staple.bytes, encodeProposalSection proposing proposal.bytes, app.bytes)
    ⟨⟨hshort, hsection, happ.2⟩, hne, hsectionNe, happ'⟩
  have hproposalRead := exact_proposalSection.roundTrip (proposing, proposal.bytes)
    ⟨hproposing, hproposing', hproposal'⟩
  have hread : readProposal fromBytes (encodeProposalSection proposing proposal.bytes) =
      some (proposing, proposal) := by
    unfold readProposal
    dsimp only at hproposalRead
    rw [hproposalRead, Guarded.value?_pure, Option.map_some,
      readBlob_bytes fromBytes hproposal]
  dsimp only at hframe
  unfold readFrame
  rw [hframe]
  unfold encodeMessageFrame
  dsimp only
  rw [if_neg (by decide), if_neg (by decide), if_pos rfl, Guarded.value?_pure]
  dsimp only
  rw [readStaple_bytes fromBytes F hstaple, hread, readBlob_bytes fromBytes happ]

end

end Session
end TwoMlsPq
