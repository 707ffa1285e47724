import TwoMlsPq.Apq.Reference
import TwoMlsPq.Apq.Rules
import TwoMlsPq.Apq.Sequence
import TwoMlsPq.Apq.Storage
import TwoMlsPq.Session.Agreement
import TwoMlsPq.Session.Attachments
import TwoMlsPq.Session.Backing
import TwoMlsPq.Session.Bootstrap
import TwoMlsPq.Session.CatchUp
import TwoMlsPq.Session.Checked
import TwoMlsPq.Session.CoreOnly
import TwoMlsPq.Session.Custody
import TwoMlsPq.Session.Delegation
import TwoMlsPq.Session.EnvelopeBytes
import TwoMlsPq.Session.HeaderSeal
import TwoMlsPq.Session.Invitation
import TwoMlsPq.Session.InvitationBytes
import TwoMlsPq.Session.LedgerWindows
import TwoMlsPq.Session.Manifests
import TwoMlsPq.Session.NoReturn
import TwoMlsPq.Session.OwedBind
import TwoMlsPq.Session.OwnSendGroup
import TwoMlsPq.Session.Proposing
import TwoMlsPq.Session.PskHygiene
import TwoMlsPq.Session.Releasing
import TwoMlsPq.Session.Restarts
import TwoMlsPq.Session.Restorable
import TwoMlsPq.Session.Rewrapping
import TwoMlsPq.Session.Rotation
import TwoMlsPq.Session.SealCache
import TwoMlsPq.Session.Seeking
import TwoMlsPq.Session.Signers
import TwoMlsPq.Session.SingleCommit
import TwoMlsPq.Session.Sound
import TwoMlsPq.Session.StableSeal
import TwoMlsPq.Session.StapleOnly
import TwoMlsPq.Session.Tally
import TwoMlsPq.Session.Trails
import TwoMlsPq.Session.TurnToken
import TwoMlsPq.Session.Wedge
import TwoMlsPq.Session.Wire
